import Mathlib.Data.List.DropRight
import QueryBridge.Proofs.Session.Run
import QueryBridge.View.Intent

/-!
# The last writer of each field

Several changes write the same field of what the user sees: a history entry that is loaded writes
the direction, a buffer, the outcome and the panel, and a reply writes the outcome from outside.
Each field has one reading of a run: the value of the latest change that wrote it
(`state_eq_lastWritten`). A load counts as a success with the output of its entry, and the panel is
open after an odd number of toggles since the latest load.
-/

set_option autoImplicit false

namespace QueryBridge.Session

/-! ## What a change writes -/

/-- The direction that a change selects. -/
def Op.direction? : Op → Option Direction
  | .setDirection d => some d
  | .load entry => some entry.direction
  | _ => none

/-- The text that a change puts into the buffer of a direction. -/
def Op.text? (d : Direction) : Op → Option String
  | .edit e text => if d = e then some text else none
  | .load entry => if d = entry.direction then some entry.input else none
  | _ => none

/-- The outcome that a moment brings onto the screen: that of a reply which is applied, or the
output of an entry which is loaded, as a success even where the entry records a failure. -/
def Moment.outcome? (m : Moment) : Option Outcome :=
  match m.op with
  | .complete d outcome _ => if m.before.inFlightOf d = [] then none else some outcome
  | .load entry => some (.success entry.output)
  | _ => none

/-- Whether a change loads a history entry. -/
def Op.isLoad : Op → Bool
  | .load _ => true
  | _ => false

/-- Whether a change toggles the history panel. -/
def Op.isToggle : Op → Bool
  | .toggleHistory => true
  | _ => false

/-- The selected direction is the one that the change gives, or what it was. -/
theorem direction_step (s : Session) (op : Op) :
    (s.step op).state.direction = op.direction?.getD s.state.direction := by
  cases op with
  | submit => rw [s.state_step_submit]; rfl
  | complete d outcome now => rw [s.state_step_complete]; rfl
  | poll => rfl
  | setDirection d => rfl
  | edit d text => rfl
  | toggleHistory => rfl
  | clearHistory => rfl
  | load entry => rfl

theorem input_step (s : Session) (op : Op) (d : Direction) :
    (s.step op).state.input d = (op.text? d).getD (s.state.input d) := by
  cases op with
  | submit => rw [s.state_step_submit]; rfl
  | complete e outcome now => rw [s.state_step_complete]; rfl
  | edit e text =>
      have hget : (s.step (.edit e text)).state.input d = if d = e then text else s.state.input d :=
        PerDirection.get_set _ _ _ _
      rw [hget, Op.text?]
      by_cases hd : d = e <;> simp [hd]
  | load entry =>
      have hget : (s.step (.load entry)).state.input d =
          if d = entry.direction then entry.input else s.state.input d :=
        PerDirection.get_set _ _ _ _
      rw [hget, Op.text?]
      by_cases hd : d = entry.direction <;> simp [hd]
  | poll => rfl
  | setDirection e => rfl
  | toggleHistory => rfl
  | clearHistory => rfl

theorem outcome_step (s : Session) (op : Op) :
    (s.step op).state.outcome = (Moment.outcome? ⟨s, op⟩).or s.state.outcome := by
  cases op with
  | submit => rw [s.state_step_submit]; rfl
  | complete d outcome now =>
      cases hq : s.inFlightOf d with
      | nil => simp [step_complete_of_nil hq, Moment.outcome?, hq]
      | cons request rest => simp [step_complete_of_cons hq, Moment.outcome?, hq, applyOutcome]
  | poll => rfl
  | setDirection d => rfl
  | edit d text => rfl
  | toggleHistory => rfl
  | clearHistory => rfl
  | load entry => rfl

/-- The panel is closed by loading an entry, turned by a toggle, and left alone by all other
changes. -/
theorem historyVisible_step (s : Session) (op : Op) :
    (s.step op).state.historyVisible =
      if op.isLoad then false else s.state.historyVisible ^^ op.isToggle := by
  cases op with
  | submit =>
      rw [s.state_step_submit]
      exact (Bool.xor_false _).symm
  | complete d outcome now =>
      rw [s.state_step_complete]
      exact (Bool.xor_false _).symm
  | toggleHistory => exact (Bool.xor_true _).symm
  | poll => exact (Bool.xor_false _).symm
  | setDirection d => exact (Bool.xor_false _).symm
  | edit d text => exact (Bool.xor_false _).symm
  | clearHistory => exact (Bool.xor_false _).symm
  | load entry => rfl

/-! ## The last write of a run -/

/-- The direction selected last. -/
def lastDirection (ops : List Op) : Direction :=
  (ops.filterMap Op.direction?).getLastD .sqlToMongo

/-- The text put last into the buffer of a direction. -/
def lastInput (d : Direction) (ops : List Op) : String :=
  (ops.filterMap (Op.text? d)).getLastD ""

/-- The outcome that came last onto the screen. -/
def lastOutcome (moments : List Moment) : Option Outcome :=
  (moments.filterMap Moment.outcome?).getLast?

/-- The number of toggles since the latest load. -/
def togglesSinceLoad (ops : List Op) : Nat :=
  (ops.rtakeWhile (!·.isLoad)).countP Op.isToggle

/-- The last value that elements of a list give is that of the last element, or that of the elements
before it. -/
theorem getLastD_filterMap_concat {α β : Type} (f : α → Option β) (start : β) (xs : List α)
    (x : α) :
    ((xs ++ [x]).filterMap f).getLastD start = (f x).getD ((xs.filterMap f).getLastD start) := by
  rw [List.filterMap_append]
  cases h : f x with
  | none => simp [h]
  | some y => simp [h]

theorem lastOutcome_concat (moments : List Moment) (m : Moment) :
    lastOutcome (moments ++ [m]) = m.outcome?.or (lastOutcome moments) := by
  rw [lastOutcome, List.filterMap_append, List.getLast?_append]
  cases h : m.outcome? <;> simp [h, lastOutcome]

/-- Nothing is on the screen exactly while no moment has brought an outcome there. -/
theorem lastOutcome_eq_none_iff (moments : List Moment) :
    lastOutcome moments = none ↔ ∀ m ∈ moments, m.outcome? = none := by
  rw [lastOutcome, List.getLast?_eq_none_iff, List.filterMap_eq_nil_iff]

/-- Loading an entry starts the count of toggles anew. -/
theorem togglesSinceLoad_concat (ops : List Op) (op : Op) :
    togglesSinceLoad (ops ++ [op]) =
      if op.isLoad then 0 else togglesSinceLoad ops + op.isToggle.toNat := by
  rw [togglesSinceLoad, List.rtakeWhile_concat]
  cases hl : op.isLoad with
  | true => simp
  | false => cases ht : op.isToggle <;> simp [togglesSinceLoad, ht]

/-- What the user sees after a run is what the changes wrote last. -/
structure LastWritten (s : Session) (ops : List Op) (moments : List Moment) : Prop where
  direction : s.state.direction = lastDirection ops
  input : ∀ d, s.state.input d = lastInput d ops
  outcome : s.state.outcome = lastOutcome moments
  historyVisible : s.state.historyVisible = (togglesSinceLoad ops % 2 == 1)

theorem lastWritten_new : LastWritten new [] [] where
  direction := rfl
  input := by
    intro d
    cases d <;> rfl
  outcome := rfl
  historyVisible := rfl

/-- Every change keeps each field at what was written to it last. -/
theorem LastWritten.step {s : Session} {ops : List Op} {moments : List Moment}
    (h : s.LastWritten ops moments) (op : Op) :
    (s.step op).LastWritten (ops ++ [op]) (moments ++ [⟨s, op⟩]) where
  direction := by
    rw [direction_step, h.direction, lastDirection, lastDirection, getLastD_filterMap_concat]
  input := by
    intro d
    rw [input_step, h.input, lastInput, lastInput, getLastD_filterMap_concat]
  outcome := by
    rw [outcome_step, h.outcome, lastOutcome_concat]
  historyVisible := by
    rw [historyVisible_step, h.historyVisible, togglesSinceLoad_concat]
    cases op.isLoad with
    | true => rfl
    | false =>
        cases op.isToggle with
        | false => simp
        -- A toggle turns the panel over and an even number into an odd one.
        | true =>
            rw [if_neg Bool.false_ne_true, if_neg Bool.false_ne_true, Bool.toNat_true,
              Bool.xor_true, Bool.eq_iff_iff, Bool.not_eq_true', beq_eq_false_iff_ne, beq_iff_eq]
            omega

theorem lastWritten_run (ops : List Op) :
    (new.run ops).LastWritten ops (new.moments ops) := by
  -- From the end of the run: the last change is the first one to be looked at for a write.
  induction ops using List.reverseRecOn with
  | nil => exact lastWritten_new
  | append_singleton ops op ih =>
      rw [run_concat, moments_concat]
      exact ih.step op

/-- The call of the view that hands over an outcome for copying, or says that there is none. -/
def copyCall (outcome : Option Outcome) : ViewCall :=
  outcome.elim (.notice nothingToCopyNotice) fun shown => .copyResult shown.text

/-- After every run each field holds what the latest change that writes it wrote, and there is no
outcome exactly where no reply was applied and no entry loaded. No submission, no clearing and no
switch hides the outcome, and copying hands over the text of the outcome that came last, whenever it
is asked for. -/
theorem state_eq_lastWritten (ops : List Op) :
    (new.run ops).state.direction = lastDirection ops ∧
    (∀ d, (new.run ops).state.input d = lastInput d ops) ∧
    (new.run ops).state.outcome = lastOutcome (new.moments ops) ∧
    ((new.run ops).state.outcome = none ↔ ∀ m ∈ new.moments ops, m.outcome? = none) ∧
    (new.run ops).state.historyVisible = (togglesSinceLoad ops % 2 == 1) ∧
    (new.run (ops ++ [.submit])).state.outcome = (new.run ops).state.outcome ∧
    (new.run (ops ++ [.clearHistory])).state.outcome = (new.run ops).state.outcome ∧
    (∀ d, (new.run (ops ++ [.setDirection d])).state.outcome = (new.run ops).state.outcome) ∧
    ∀ view : View, (⟨new.run ops, view⟩ : Console).dispatch .copyResult =
      (⟨new.run ops, view⟩, [copyCall (lastOutcome (new.moments ops))],
        (view.respond (copyCall (lastOutcome (new.moments ops)))).2) := by
  have h := lastWritten_run ops
  refine ⟨h.direction, h.input, h.outcome, ?_, h.historyVisible, ?_, ?_, ?_, ?_⟩
  · rw [h.outcome, lastOutcome_eq_none_iff]
  · rw [run_concat, outcome_step]
    rfl
  · rw [run_concat, outcome_step]
    rfl
  · intro d
    rw [run_concat, outcome_step]
    rfl
  · intro view
    rw [← h.outcome, Console.dispatch, Intent.apply]
    cases (new.run ops).state.outcome <;>
      simp [copyCall, View.respondAll, View.respond]

end QueryBridge.Session
