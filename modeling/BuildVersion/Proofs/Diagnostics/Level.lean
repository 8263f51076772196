import BuildVersion.CommandLine.Run
import Mathlib.Tactic.Lemma

/-!
# The levels of what is told

Nothing that a run does on its way tells the user an error. Main statement: whatever is asked, called and resolved,
no event of a run is an error (`Invocation.run_mild`), so that an error is told only by what ends a run.
-/

namespace BuildVersion

open Recorded

/-- The entry tells no error. -/
def Entry.Mild (entry : Entry) : Prop := entry.level ≠ .error

/-- The event tells no error. -/
def Event.Mild : Event → Prop
  | told entry => entry.Mild
  | asked .. | called _ => True

lemma Warning.entry_mild (w : Warning) : w.entry.Mild := nofun

namespace Recorded

variable {ε ε' α β : Type} {P : ε → Prop} {x : Recorded ε α}

/-- All that is recorded has a property. -/
def Always (P : ε → Prop) (x : Recorded ε α) : Prop := ∀ e ∈ x.record, P e

lemma always_pure (a : α) : (pure a : Recorded ε α).Always P := nofun

lemma always_note {e : ε} (h : P e) : (note e).Always P := List.forall_mem_singleton.2 h

lemma always_noteIf {condition : Bool} {e : ε} (h : P e) : (noteIf condition e).Always P := by
  cases condition with
  | false => exact nofun
  | true => exact always_note h

lemma Always.bind {f : α → Recorded ε β} (hx : x.Always P) (hf : (f x.value).Always P) : (x >>= f).Always P :=
  List.forall_mem_append.2 ⟨hx, hf⟩

lemma Always.asEvents {y : Recorded Entry α} (h : y.Always Entry.Mild) : y.asEvents.Always Event.Mild :=
  List.forall_mem_map.2 h

lemma trace_mild (message : String) : (tell .trace message).Always Event.Mild :=
  always_note (show Level.trace ≠ .error by decide)

lemma success_mild (message : String) : (tell .success message).Always Event.Mild :=
  always_note (show Level.success ≠ .error by decide)

lemma warn_mild (w : Warning) : (warn w).Always Event.Mild := always_note w.entry_mild

end Recorded

/-! ### Tools -/

lemma ToolOutcome.report_mild (outcome : ToolOutcome) (milliseconds : Nat) (call : ToolCall) :
    (outcome.report milliseconds call).Always Event.Mild := by
  cases outcome with
  | notStarted => exact (trace_mild _).bind (always_pure _)
  | overran => exact (warn_mild _).bind (always_pure _)
  | ended status deliveries =>
    rw [report]
    cases Received.ofDeliveries? deliveries with
    | none => exact (warn_mild _).bind (always_pure _)
    | some received =>
      have hlines : (notes (received.lines.map fun line => Event.told ⟨.raw, line⟩)).Always Event.Mild :=
        List.forall_mem_map.2 fun _ _ => nofun
      refine hlines.bind ?_
      split
      · exact always_pure _
      · exact (trace_mild _).bind (always_pure _)

lemma Toolbox.run_mild (tools : Toolbox) (milliseconds : Nat) (call : ToolCall) :
    (tools.run milliseconds call).Always Event.Mild :=
  (trace_mild _).bind ((always_note trivial).bind (ToolOutcome.report_mild _ _ _))

/-! ### Providers -/

lemma Git.collect_mild (tools : Toolbox) (milliseconds : Nat) (branchOf : String → String) (request : Request) :
    (Git.collect tools milliseconds branchOf request).Always Event.Mild := by
  refine (Toolbox.run_mild _ _ _).bind ?_
  dsimp only
  split
  · exact (trace_mild _).bind (always_pure _)
  · iterate 5 refine (Toolbox.run_mild _ _ _).bind ?_
    exact always_pure _

lemma Subversion.collect_mild (tools : Toolbox) (workingDirectory : List String) (milliseconds : Nat)
    (request : Request) : (Subversion.collect tools workingDirectory milliseconds request).Always Event.Mild := by
  refine (Toolbox.run_mild _ _ _).bind ?_
  dsimp only
  split
  · exact (trace_mild _).bind (always_pure _)
  · refine (Toolbox.run_mild _ _ _).bind ?_
    split <;> exact always_pure _

namespace Provider

open Calendar

variable {path tagMatch : String} {providers : List Provider}

lemma collected_mild {p : Provider} {request : Request} (h : (p.collect request).Always Event.Mild) :
    (p.collected request).Always Event.Mild :=
  (always_note trivial).bind (h.bind ((success_mild _).bind (always_pure _)))

lemma firstOf_mild (h : ∀ p ∈ providers, ∀ request, (p.collect request).Always Event.Mild) :
    (firstOf path tagMatch providers).Always Event.Mild := by
  induction providers with
  | nil => exact always_pure _
  | cons p rest ih =>
    have hp := h p List.mem_cons_self
    have hrest := ih fun q hq => h q (List.mem_cons_of_mem _ hq)
    refine (always_note trivial).bind ?_
    split
    · refine (always_note trivial).bind ?_
      split
      · exact (trace_mild _).bind ((collected_mild (hp _)).bind (always_pure _))
      · exact (trace_mild _).bind hrest
    · exact (trace_mild _).bind hrest

/-- A selection tells no errors if none of its providers does. -/
lemma select_mild (h : ∀ p ∈ providers, ∀ request, (p.collect request).Always Event.Mild)
    (required : Option String) (now : Timestamp) :
    (select providers path required tagMatch now).Always Event.Mild := by
  have hfirst (keep : Provider → Bool) : (firstOf path tagMatch (providers.filter keep)).Always Event.Mild :=
    firstOf_mild fun p hp => h p (List.mem_filter.1 hp).1
  rw [select]
  split
  · split
    · exact always_pure _
    · refine (hfirst _).bind ?_
      split <;> exact always_pure _
  · refine (hfirst _).bind ?_
    split
    · exact always_pure _
    · exact (warn_mild _).bind (always_pure _)

end Provider

lemma Machine.collect_mild (m : Machine) (s : Settings) (directory : String) (time : Calendar.Timestamp) :
    (m.collect s directory time).Always Event.Mild := by
  refine Provider.select_mild ?_ _ _
  intro p hp request
  rw [Machine.providers, List.mem_cons, List.mem_singleton] at hp
  obtain rfl | rfl := hp
  · exact Git.collect_mild _ _ _ _
  · exact Subversion.collect_mild _ _ _ _

/-! ### Templates -/

section

open Calendar

variable {s : Snapshot} {context : BuildContext} {zone : Zone}

lemma Token.value_mild (token : Token) : (token.value s context zone).Always Entry.Mild := by
  cases token with
  | time spec =>
    rw [value, timeValue]
    split
    · exact always_pure _
    · exact (always_note (Warning.entry_mild _)).bind (always_pure _)
  | release =>
    refine (always_noteIf (Warning.entry_mild _)).bind ?_
    dsimp only
    split
    · exact always_pure _
    · split
      · exact always_pure _
      · exact (always_note (Warning.entry_mild _)).bind (always_pure _)
  | _ => exact always_pure _

lemma Template.valueOf_mild (segments : List Segment) : (valueOf s context zone segments).Always Entry.Mild := by
  induction segments with
  | nil => exact always_pure _
  | cons segment rest ih =>
    cases segment with
    | text cs =>
      refine ih.bind ?_
      split <;> exact always_pure _
    | token token =>
      refine (Token.value_mild token).bind ?_
      split
      · exact always_pure _
      · refine ih.bind ?_
        split <;> exact always_pure _

lemma Template.resolve_mild (template : String) : (resolve s context zone template).Always Entry.Mild := by
  rw [resolve]
  split
  · exact always_pure _
  · refine (valueOf_mild _).bind ?_
    split
    · exact always_pure _
    · exact (always_note nofun).bind (always_pure _)

lemma Product.text_mild (product : Product) (settings : Settings) :
    (product.text s settings context zone).Always Entry.Mild := by
  cases product with
  | version => exact Template.resolve_mild _
  | shortVersion =>
    refine (Template.resolve_mild _).bind ?_
    split <;> exact always_pure _
  | copyright => exact Template.resolve_mild _
  | facts => exact always_pure _

end

/-! ### Runs -/

/-- On its way, a run tells no errors. -/
lemma Invocation.run_mild (i : Invocation) (m : Machine) : (i.run m).Always Event.Mild := by
  rw [run]
  split
  · rw [Product.make]
    split
    · exact always_pure _
    · refine (Machine.collect_mild _ _ _ _).bind ?_
      split
      · exact always_pure _
      · exact ((Product.text_mild _ _).asEvents).bind (always_pure _)
  · exact always_pure _

end BuildVersion
