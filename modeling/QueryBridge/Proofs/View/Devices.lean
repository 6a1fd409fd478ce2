import Mathlib.Data.List.Forall2
import QueryBridge.Proofs.View.Batches
import QueryBridge.View.Device

/-!
# Writes that fail

A view that writes to a device looks at what became of an emission after it has brought itself up to
date. So a console on a device makes, whatever the device does, the steps that are planned without
one (`planned`), and carries out what they emit (`run_turnsOn`, in every lawful monad). What the
device decides is how much of each emission it takes (`Written`).

Two courses on different devices carry out the same plan, so they differ in nothing but what was
taken of each emission. And a plan has each row once: after a rendering, written or not, the rows of
every later event are its own. The main result is `failed_writes_change_nothing`.
-/

set_option autoImplicit false

namespace QueryBridge

/-! ## Consoles on devices in a lawful monad -/

section Lawful

variable {m : Type → Type} [Monad m] [LawfulMonad m] (device : Device m) (color : Bool)

namespace View

/-- Writing rows leaves the view as it is, whatever becomes of them. -/
theorem run_emitTo (view : View) (lines : List Line) :
    (emitTo device color lines).run view =
      (fun attempts => (attempts, view)) <$> (view.emit lines).mapM (·.writeTo device color) := by
  cases h : lines.isEmpty with
  | true => simp [emitTo, emit, h]
  | false => simp [emitTo, emit, h]

/-- The view answers a call as it does without a device, and then its emissions are written. -/
theorem run_respondTo (view : View) (call : ViewCall) :
    (respondTo device color call).run view =
      (fun attempts => (attempts, (view.respond call).1)) <$>
        (view.respond call).2.mapM (·.writeTo device color) := by
  cases call with
  | render state history =>
      -- The prompt is none of the fields that a rendering sets.
      simp only [respondTo, StateT.run_bind, StateT.run_get, StateT.run_set, StateT.run_modify,
        pure_bind, run_emitTo]
      rfl
  | copyResult text => exact run_emitTo device color view _
  | notice message => exact run_emitTo device color view _
  | entryLoaded entry => simp [respondTo, respond]

/-- The view answers calls as it does without a device, and their emissions are written in order. -/
theorem run_respondAllTo (view : View) (calls : List ViewCall) :
    (respondAllTo device color calls).run view =
      (fun attempts => (attempts, (view.respondAll calls).1)) <$>
        (view.respondAll calls).2.mapM (·.writeTo device color) := by
  induction calls generalizing view with
  | nil => simp [respondAllTo, respondAll]
  | cons call rest ih => simp [respondAllTo, respondAll, run_respondTo, ih]

end View

namespace Console

/-- The step that an operation makes, with its emissions still to be written. -/
def planned (console : Console) : Op → Turn Emission
  | .intent gesture =>
    let (after, calls, emissions) := console.dispatch gesture
    ⟨after, calls, emissions⟩
  | .poll => ⟨console.poll, [], []⟩
  | .complete d outcome now =>
    ⟨((console.complete? d outcome now).map Prod.snd).getD console, [], []⟩
  | .render =>
    let (after, emissions) := console.render
    ⟨after, [.ofSession console.session], emissions⟩
  | .prompt message => ⟨{ console with view := console.view.setPrompt message }, [], []⟩
  | .hint message => ⟨console, [], console.view.hint message⟩

/-- The steps of a course of operations, with their emissions still to be written. -/
def plan (console : Console) : List Op → List (Turn Emission)
  | [] => []
  | op :: rest =>
    let turn := console.planned op
    turn :: plan turn.console rest

/-- Writes the emissions of a step. -/
def Turn.writeTo (turn : Turn Emission) : m (Turn Attempt) := do
  let attempts ← turn.shown.mapM (·.writeTo device color)
  return ⟨turn.console, turn.calls, attempts⟩

theorem run_onView {α : Type} (console : Console) (act : StateT View m α) :
    (onView act).run console =
      (fun answer => (answer.1, { console with view := answer.2 })) <$> act.run console.view := by
  simp [onView]

theorem run_callView (console : Console) (calls : List ViewCall) :
    (callView device color calls).run console =
      (fun attempts => ((calls, attempts),
        { console with view := (console.view.respondAll calls).1 })) <$>
        (console.view.respondAll calls).2.mapM (·.writeTo device color) := by
  simp [callView, run_onView, View.run_respondAllTo]

/-- An operation on a device makes the step that is planned. -/
theorem run_operateOn (console : Console) (op : Op) :
    (operateOn device color op).run console =
      (fun turn => ((turn.calls, turn.shown), turn.console)) <$>
        (console.planned op).writeTo device color := by
  cases op with
  | intent gesture => simp [operateOn, planned, dispatch, Turn.writeTo, run_callView]
  | poll => simp [operateOn, planned, Turn.writeTo]
  | complete d outcome now =>
      cases hdone : console.complete? d outcome now <;>
        simp [operateOn, planned, Turn.writeTo, hdone]
  | render =>
      simp [operateOn, planned, render, Turn.writeTo, run_callView, respondAll_singleton]
  | prompt message => simp [operateOn, planned, Turn.writeTo, run_onView]
  | hint message =>
      simp [operateOn, planned, Turn.writeTo, run_onView, View.run_emitTo, View.hint]

/-- A course on a device carries out what is planned. -/
theorem run_turnsOn (console : Console) (ops : List Op) :
    (turnsOn device color ops).run' console =
      (console.plan ops).mapM (Turn.writeTo device color) := by
  induction ops generalizing console with
  | nil => simp [turnsOn, plan]
  | cons op rest ih =>
      simp [turnsOn, plan, run_operateOn, ← ih, Turn.writeTo]

end Console

end Lawful

/-! ## What a device takes -/

/-- What an attempt to write an emission comes to: some front part of the characters was taken, and
all of them if nothing failed. -/
structure Written (color : Bool) (emission : Emission) (attempt : Attempt) : Prop where
  same : attempt.emission = emission
  front : attempt.taken <+: emission.render color
  of_whole : attempt.whole = true → attempt.taken = emission.render color

/-- The pieces of an emission make up its characters. -/
theorem Emission.flatten_pieces (color : Bool) (emission : Emission) :
    (emission.pieces color).flatten = emission.render color := by
  obtain ⟨lines, prompt⟩ := emission
  cases prompt <;> simp [pieces, render, Line.renderAll, List.flatMap_def]

/-- Lists whose elements correspond have the same images if corresponding elements have. -/
theorem map_eq_map_of_forall₂ {α β γ : Type} {R : α → β → Prop} {f : α → γ} {g : β → γ}
    (heq : ∀ a b, R a b → f a = g b) {l : List α} {u : List β} (h : List.Forall₂ R l u) :
    l.map f = u.map g := by
  rw [← List.forall₂_eq_eq_eq, List.forall₂_map_left_iff, List.forall₂_map_right_iff]
  exact h.imp heq

section States

variable {σ : Type} (device : Device (StateM σ)) (color : Bool)

/-- The result of an action that begins in a state. -/
def resultFrom {α : Type} (act : StateM σ α) (start : σ) : α :=
  (act.run start).run.1

theorem resultFrom_bind {α β : Type} (act : StateM σ α) (next : α → StateM σ β) (start : σ) :
    resultFrom (act >>= next) start =
      resultFrom (next (resultFrom act start)) (act.run start).run.2 :=
  rfl

/-- The results of an action for each element of a list are those of one action each. -/
theorem forall₂_mapM {α β : Type} {act : α → StateM σ β} {R : α → β → Prop}
    (h : ∀ a start, R a (resultFrom (act a) start)) (l : List α) (start : σ) :
    List.Forall₂ R l (resultFrom (l.mapM act) start) := by
  induction l generalizing start with
  | nil => exact .nil
  | cons a rest ih =>
      rw [List.mapM_cons]
      exact .cons (h a start) (ih _)

namespace Device

/-- What a device takes of pieces is a front part of them, and all of them if nothing fails. -/
theorem putAll_front (pieces : List (List Char)) (start : σ) :
    (resultFrom (device.putAll pieces) start).1 <+: pieces.flatten ∧
      ((resultFrom (device.putAll pieces) start).2 = true →
        (resultFrom (device.putAll pieces) start).1 = pieces.flatten) := by
  induction pieces generalizing start with
  | nil => exact ⟨List.prefix_rfl, fun _ => rfl⟩
  | cons piece rest ih =>
      obtain ⟨hfront, hwhole⟩ := ih ((device.put piece).run start).run.2
      rw [putAll, resultFrom_bind, List.flatten_cons]
      split
      · -- A piece that is not taken as a whole is the last one that is offered.
        have hpart := (List.take_prefix (resultFrom (device.put piece) start) piece).trans
          (List.prefix_append piece rest.flatten)
        exact ⟨hpart, fun hfalse => Bool.noConfusion hfalse⟩
      · rw [resultFrom_bind]
        exact ⟨(List.prefix_append_right_inj piece).2 hfront,
          fun htrue => congrArg (piece ++ ·) (hwhole htrue)⟩

theorem putAll_flawless {m : Type → Type} [Monad m] [LawfulMonad m] (pieces : List (List Char)) :
    (flawless : Device m).putAll pieces = pure (pieces.flatten, true) := by
  induction pieces with
  | nil => simp [putAll, flawless]
  | cons piece rest ih =>
      rw [putAll, ih]
      simp [flawless]

end Device

namespace Emission

/-- Any device writes a front part of an emission, and all of it if nothing fails. -/
theorem written_writeTo (emission : Emission) (start : σ) :
    Written color emission (resultFrom (emission.writeTo device color) start) := by
  obtain ⟨hfront, hwhole⟩ := device.putAll_front (emission.pieces color) start
  rw [flatten_pieces] at hfront hwhole
  rw [writeTo, resultFrom_bind]
  exact ⟨rfl, hfront, hwhole⟩

/-- The attempt at an emission that meets no failure. -/
def success (color : Bool) (emission : Emission) : Attempt :=
  ⟨emission, emission.render color, true⟩

theorem writeTo_flawless {m : Type → Type} [Monad m] [LawfulMonad m] (emission : Emission) :
    emission.writeTo (.flawless : Device m) color = pure (emission.success color) := by
  simp [writeTo, Device.putAll_flawless, flatten_pieces, success]

end Emission

/-! ## A course on two devices -/

/-- An attempt beside the one at the same place of a course without failures. -/
structure Attempt.Beside (color : Bool) (attempt flawless : Attempt) : Prop where
  emission : attempt.emission = flawless.emission
  success : flawless = flawless.emission.success color
  /-- Some front part of the characters was taken. -/
  front : attempt.taken <+: flawless.taken
  /-- What was written without a failure has the very same characters. -/
  of_whole : attempt.whole = true → attempt = flawless

namespace Console

/-- A step beside the one at the same place of a course without failures. -/
structure Turn.Beside (color : Bool) (turn flawless : Turn Attempt) : Prop where
  /-- The session with its history and the calls of the service, and the view with what it has
  rendered, whether an entry was loaded, and the prompt. -/
  console : turn.console = flawless.console
  calls : turn.calls = flawless.calls
  attempts : List.Forall₂ (Attempt.Beside color) turn.shown flawless.shown

/-- The steps of a course on a device that is in a state. -/
def turnsFrom (console : Console) (start : σ) (ops : List Op) : List (Turn Attempt) :=
  resultFrom ((turnsOn device color ops).run' console) start

/-- The emissions of a step. -/
def Turn.emissions (turn : Turn Attempt) : List Emission :=
  turn.shown.map Attempt.emission

/-- A planned step that is carried out: each of its emissions is written, as far as the device takes
it. -/
structure CarriesOut (color : Bool) (planned : Turn Emission) (turn : Turn Attempt) : Prop where
  console : turn.console = planned.console
  calls : turn.calls = planned.calls
  attempts : List.Forall₂ (Written color) planned.shown turn.shown

theorem carriesOut_writeTo (turn : Turn Emission) (start : σ) :
    CarriesOut color turn (resultFrom (turn.writeTo device color) start) := by
  rw [Turn.writeTo, resultFrom_bind]
  exact ⟨rfl, rfl, forall₂_mapM (Emission.written_writeTo device color) turn.shown start⟩

/-- A course that is carried out on a device has the steps that were planned. -/
theorem carriesOut_turnsFrom (console : Console) (start : σ) (ops : List Op) :
    List.Forall₂ (CarriesOut color) (console.plan ops)
      (turnsFrom device color console start ops) := by
  rw [turnsFrom, run_turnsOn]
  exact forall₂_mapM (carriesOut_writeTo device color) (console.plan ops) start

/-- A planned step that meets no failure. -/
def Turn.success (color : Bool) (turn : Turn Emission) : Turn Attempt :=
  ⟨turn.console, turn.calls, turn.shown.map (Emission.success color)⟩

theorem turnsFrom_flawless (console : Console) (start : σ) (ops : List Op) :
    turnsFrom .flawless color console start ops = (console.plan ops).map (Turn.success color) := by
  have hturn (turn : Turn Emission) :
      turn.writeTo (.flawless : Device (StateM σ)) color = pure (turn.success color) := by
    simp [Turn.writeTo, Emission.writeTo_flawless, Turn.success]
  rw [turnsFrom, run_turnsOn, funext hturn, List.mapM_pure]
  rfl

theorem Written.beside {emission : Emission} {attempt : Attempt}
    (h : Written color emission attempt) :
    attempt.Beside color (emission.success color) where
  emission := h.same
  success := rfl
  front := h.front
  of_whole := by
    intro hwhole
    have htaken := h.of_whole hwhole
    obtain ⟨emission, taken, whole⟩ := attempt
    obtain rfl : emission = _ := h.same
    obtain rfl : taken = _ := htaken
    obtain rfl : whole = true := hwhole
    rfl

theorem CarriesOut.beside {planned : Turn Emission} {turn : Turn Attempt}
    (h : CarriesOut color planned turn) : turn.Beside color (planned.success color) where
  console := h.console
  calls := h.calls
  attempts := by
    rw [Turn.success, List.forall₂_map_right_iff]
    exact h.attempts.flip.imp fun _ _ => Written.beside color

theorem beside_of_carriesOut {plan : List (Turn Emission)} {turns : List (Turn Attempt)}
    (h : List.Forall₂ (CarriesOut color) plan turns) :
    List.Forall₂ (Turn.Beside color) turns (plan.map (Turn.success color)) := by
  rw [List.forall₂_map_right_iff]
  exact h.flip.imp fun _ _ => CarriesOut.beside color

end Console

end States

/-! ## What is shown later -/

namespace Console

variable {color : Bool}

theorem CarriesOut.emissions {planned : Turn Emission} {turn : Turn Attempt}
    (h : CarriesOut color planned turn) : turn.emissions = planned.shown := by
  have hsame : planned.shown.map id = turn.shown.map Attempt.emission :=
    map_eq_map_of_forall₂ (fun _ _ hwritten => hwritten.same.symm) h.attempts
  rw [Turn.emissions, ← hsame, List.map_id]

/-- A course attempts the emissions that were planned, in order, whether they can be written or
not. -/
theorem emissions_of_forall₂ {plan : List (Turn Emission)} {turns : List (Turn Attempt)}
    (h : List.Forall₂ (CarriesOut color) plan turns) :
    turns.flatMap Turn.emissions = plan.flatMap Turn.shown := by
  have hsame : plan.map Turn.shown = turns.map Turn.emissions :=
    map_eq_map_of_forall₂ (fun _ _ hturn => hturn.emissions.symm) h
  rw [List.flatMap_def, List.flatMap_def, hsame]

/-- The console after a course of operations. -/
def consoleAfter (console : Console) (ops : List Op) : Console :=
  ops.foldl (fun console op => (console.planned op).console) console

theorem plan_append (console : Console) (ops rest : List Op) :
    console.plan (ops ++ rest) = console.plan ops ++ (console.consoleAfter ops).plan rest := by
  induction ops generalizing console with
  | nil => rfl
  | cons op ops ih => exact congrArg (console.planned op :: ·) (ih _)

/-- What an event does; instead of one, the session may be shown once more. -/
def opsOf : Option Event → List Op
  | none => [.render]
  | some (.intent gesture) => [.intent gesture]
  | some (.reply d outcome now) => [.complete d outcome now, .render]

/-- An event is planned as it is followed by the view. -/
theorem plan_event {console : Console} (h : console.view.InSync console.session) (event : Event) :
    (console.plan (opsOf (some event))).flatMap Turn.shown = (console.follow event).2 ∧
      console.consoleAfter (opsOf (some event)) = (console.follow event).1 := by
  cases event with
  | intent gesture => exact ⟨List.append_nil _, rfl⟩
  | reply d outcome now =>
      cases hdone : console.complete? d outcome now with
      | none =>
          simp [opsOf, plan, planned, consoleAfter, follow, hdone, render_of_inSync h]
      | some done => simp [opsOf, plan, planned, consoleAfter, follow, hdone]

/-- From a view in sync the plan for a course of events has the rows of the events. -/
theorem plan_course {console : Console} (h : console.view.InSync console.session)
    (course : List (Option Event)) :
    (console.plan (course.flatMap opsOf)).flatMap Turn.shown =
      narrate console.view console.session (course.filterMap id) := by
  induction course generalizing console with
  | nil => rfl
  | cons step rest ih =>
      rw [List.flatMap_cons, plan_append, List.flatMap_append]
      cases step with
      | none =>
          have hsame : console.consoleAfter (opsOf none) = console := by
            simp [consoleAfter, opsOf, planned, render_of_inSync h]
          have hnone : (console.plan (opsOf none)).flatMap Turn.shown = [] := by
            simp [plan, opsOf, planned, render_of_inSync h]
          rw [hnone, hsame, ih h]
          rfl
      | some event =>
          obtain ⟨hshown, hafter⟩ := plan_event h event
          have hfollows := follows h event
          rw [hshown, hafter, ih hfollows.inSync, hfollows.session,
            narrate_congr hfollows.prompt, hfollows.emissions]
          rfl

end Console

/-! ## Every choice of failures -/

namespace Device

/-- A device that refuses the emissions that are chosen, by their numbers, and takes the others.
It remembers the number of the emission that it is offered, and whether a piece of that one was
taken. -/
def refusing (fails : Nat → Bool) : Device (StateM (Nat × Bool)) where
  put piece := do
    let (number, begun) ← get
    if !begun && fails number then
      set (number + 1, false)
      return 0
    set (number, true)
    return piece.length
  flush := do
    let (number, begun) ← get
    set (number + 1, false)
    return begun || !fails number

section Refusing

variable {fails : Nat → Bool} {number : Nat}

/-- Once a piece of an emission was taken, all are. -/
theorem putAll_refusing_of_begun (pieces : List (List Char)) :
    ((refusing fails).putAll pieces).run (number, true) =
      pure ((pieces.flatten, true), (number + 1, false)) := by
  induction pieces with
  | nil => rfl
  | cons piece rest ih =>
      have hput : ((refusing fails).put piece).run (number, true) =
          pure (piece.length, (number, true)) :=
        rfl
      simp [putAll, hput, ih]

/-- The device refuses an emission as a whole or takes it as a whole, and then counts on. -/
theorem putAll_refusing {pieces : List (List Char)} (h : ∀ piece ∈ pieces, piece ≠ []) :
    ((refusing fails).putAll pieces).run (number, false) =
      pure ((if fails number then [] else pieces.flatten, !fails number), (number + 1, false)) := by
  cases pieces with
  | nil => cases hf : fails number <;> simp [putAll, refusing, hf]
  | cons piece rest =>
      have hpos : 0 < piece.length := List.length_pos_iff.2 (h piece List.mem_cons_self)
      have hput : ((refusing fails).put piece).run (number, false) =
          pure (if fails number then (0, (number + 1, false))
            else (piece.length, (number, true))) := by
        cases hf : fails number <;> simp [refusing, hf]
      cases hf : fails number with
      | true => simp [putAll, hput, hf, hpos]
      | false => simp [putAll, hput, hf, putAll_refusing_of_begun]

end Refusing

end Device

/-- No piece of an emission is empty, so each can fail to be taken. -/
theorem Emission.ne_nil_of_mem_pieces {color : Bool} {emission : Emission} :
    ∀ piece ∈ emission.pieces color, piece ≠ [] := by
  have hrow (ending : List Char) (hending : ending ≠ []) :
      ∀ piece ∈ emission.lines.map fun line => Line.render color line ++ ending, piece ≠ [] := by
    intro piece hpiece
    obtain ⟨line, -, rfl⟩ := List.mem_map.1 hpiece
    exact List.append_ne_nil_of_right_ne_nil _ hending
  have hprompt (message : String) : Line.render color (promptLine message) ≠ [] := by
    simp [promptLine, Line.render, Span.render, Span.plain]
  rw [pieces]
  split
  · exact hrow ['\n'] (List.cons_ne_nil _ _)
  · intro piece hpiece
    rcases List.mem_append.1 hpiece with hfront | hlast
    · rcases List.mem_cons.1 hfront with rfl | hline
      · exact List.cons_ne_nil _ _
      · exact hrow ['\r', '\n'] (List.cons_ne_nil _ _) piece hline
    · obtain rfl := List.mem_singleton.1 hlast
      exact hprompt _

namespace Console

/-- Attempts whose failures are those chosen, when the first one has this number. -/
def FailAs (fails : Nat → Bool) (number : Nat) (attempts : List Attempt) : Prop :=
  attempts.map Attempt.whole = (List.range' number attempts.length).map fun i => !fails i

section Chosen

variable {fails : Nat → Bool}

theorem FailAs.append {number : Nat} {first others : List Attempt}
    (hfirst : FailAs fails number first) (hothers : FailAs fails (number + first.length) others) :
    FailAs fails number (first ++ others) := by
  rw [FailAs] at hfirst hothers ⊢
  rw [List.map_append, hfirst, hothers, List.length_append, ← List.range'_append_1, List.map_append]

/-- An action makes its attempts from a number on, and they fail as chosen. -/
def AttemptsFrom {α : Type} (fails : Nat → Bool) (act : StateM (Nat × Bool) α)
    (attempts : α → List Attempt) (number : Nat) : Prop :=
  ∃ result, act.run (number, false) = pure (result, (number + (attempts result).length, false)) ∧
    FailAs fails number (attempts result)

/-- Actions for the elements of a list make their attempts one after another. -/
theorem attemptsFrom_mapM {α β : Type} {act : α → StateM (Nat × Bool) β}
    {attempts : β → List Attempt} (h : ∀ a number, AttemptsFrom fails (act a) attempts number)
    (l : List α) (number : Nat) :
    AttemptsFrom fails (l.mapM act) (fun results => results.flatMap attempts) number := by
  induction l generalizing number with
  | nil => exact ⟨[], rfl, rfl⟩
  | cons a rest ih =>
      obtain ⟨first, hrun, hfirst⟩ := h a number
      obtain ⟨others, hrest, hothers⟩ := ih (number + (attempts first).length)
      refine ⟨first :: others, ?_, hfirst.append hothers⟩
      dsimp only at hrest ⊢
      rw [List.mapM_cons, List.flatMap_cons, List.length_append, ← Nat.add_assoc]
      simp only [StateT.run_bind, StateT.run_pure, hrun, hrest, pure_bind]

theorem attemptsFrom_emission (color : Bool) (emission : Emission) (number : Nat) :
    AttemptsFrom fails (emission.writeTo (.refusing fails) color)
      (fun attempt => [attempt]) number := by
  have hrun : ((Device.refusing fails).putAll (emission.pieces color)).run (number, false) = _ :=
    Device.putAll_refusing emission.ne_nil_of_mem_pieces
  refine ⟨⟨emission, if fails number then [] else (emission.pieces color).flatten, !fails number⟩,
    ?_, rfl⟩
  simp only [Emission.writeTo, StateT.run_bind, StateT.run_pure, hrun, pure_bind,
    List.length_singleton]

/-- The attempts of a step are numbered on from those before it. -/
theorem attemptsFrom_turn (color : Bool) (turn : Turn Emission) (number : Nat) :
    AttemptsFrom fails (turn.writeTo (.refusing fails) color) Turn.shown number := by
  have hall : AttemptsFrom fails (turn.shown.mapM (Emission.writeTo (.refusing fails) color))
      _ number :=
    attemptsFrom_mapM (attemptsFrom_emission color) turn.shown number
  obtain ⟨attempts, hrun, hfails⟩ := hall
  dsimp only at hrun hfails
  rw [List.flatMap_singleton'] at hrun hfails
  refine ⟨⟨turn.console, turn.calls, attempts⟩, ?_, hfails⟩
  simp only [Turn.writeTo, StateT.run_bind, StateT.run_pure, hrun, pure_bind]

end Chosen

/-- The operations on a console, the calls of its view and its emissions do not depend on the
device. Beside the course on a device that takes everything, any other course has the same consoles
and the same calls, and attempts the same emissions, of which it writes a front part, and all where
it does not fail. After a rendering, written or not, the rows of every event are attempted once, and
no others. And each choice of emissions that fail is that of a device. -/
theorem failed_writes_change_nothing :
    (∀ {σ : Type} (device : Device (StateM σ)) (color : Bool) (console : Console) (start : σ)
        (ops : List Op),
      List.Forall₂ (Turn.Beside color) (turnsFrom device color console start ops)
        (turnsFrom .flawless color console start ops)) ∧
    (∀ {σ : Type} (device : Device (StateM σ)) (color : Bool) (console : Console) (start : σ)
        (course : List (Option Event)),
      ∃ first later,
        turnsFrom device color console start (.render :: course.flatMap opsOf) = first :: later ∧
        first.console.session = console.session ∧ first.console.view.InSync console.session ∧
        later.flatMap Turn.emissions = narrate console.view console.session (course.filterMap id)) ∧
    ∀ fails : Nat → Bool, ∃ (σ : Type) (device : Device (StateM σ)) (start : σ),
      ∀ (color : Bool) (console : Console) (ops : List Op),
        FailAs fails 0 ((turnsFrom device color console start ops).flatMap Turn.shown) := by
  refine ⟨?_, ?_, ?_⟩
  · intro σ device color console start ops
    rw [turnsFrom_flawless]
    exact beside_of_carriesOut color (carriesOut_turnsFrom device color console start ops)
  · intro σ device color console start course
    have hcarried := carriesOut_turnsFrom device color console start
      (.render :: course.flatMap opsOf)
    obtain ⟨first, later, hfirst, hlater, hturns⟩ := List.forall₂_cons_left_iff.1 hcarried
    have hconsole : first.console = console.render.1 := hfirst.console
    have hsync : console.render.1.view.InSync console.render.1.session :=
      View.sync_inSync console.view console.session
    refine ⟨first, later, hturns, ?_, ?_, ?_⟩
    · rw [hconsole]
      rfl
    · rw [hconsole]
      exact hsync
    · rw [emissions_of_forall₂ hlater]
      have hprompt : console.render.1.view.prompt = console.view.prompt := rfl
      exact (plan_course hsync course).trans (narrate_congr hprompt _ _)
  · intro fails
    refine ⟨_, .refusing fails, (0, false), fun color console ops => ?_⟩
    obtain ⟨turns, hrun, hfails⟩ := attemptsFrom_mapM (attemptsFrom_turn color) (console.plan ops) 0
    have hturns : turnsFrom (.refusing fails) color console (0, false) ops = turns := by
      rw [turnsFrom, run_turnsOn, resultFrom, hrun]
      rfl
    rw [hturns]
    exact hfails

-- The remark about a request is lost, and the panel that opens next is shown all the same.
example :
    ((turnsFrom (.refusing (· == 0)) false {} (0, false)
      [.intent (.editInput .sqlToMongo "SELECT 1"), .intent .submit,
        .intent .toggleHistory]).flatMap Turn.shown).map (String.ofList ·.taken) =
      ["", "Translation History\n  No translations yet\n\n"] := by
  decide

end Console

end QueryBridge
