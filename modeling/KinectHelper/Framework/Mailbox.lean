import Mathlib.Data.List.Basic

namespace KinectHelper.Mailbox

variable {α : Type*}

inductive Event (α : Type*) where
  | put (a : α)
  | take (a : α)
  deriving DecidableEq

/-- The slot after an event; a take is possible only of what is in the slot. -/
def deliver [DecidableEq α] : Option α → Event α → Option (Option α)
  | _, .put a => some (some a)
  | slot, .take a => if slot = some a then some none else none

/-- The slot after a history of events, `none` for an impossible history. -/
def replay [DecidableEq α] (log : List (Event α)) (slot : Option α) : Option (Option α) :=
  match log with
  | [] => some slot
  | e::es => (deliver slot e).bind (replay es)

def puts : List (Event α) → List α
  | [] => []
  | .put a::es => a :: puts es
  | .take _::es => puts es

def takes : List (Event α) → List α
  | [] => []
  | .put _::es => takes es
  | .take a::es => a :: takes es

theorem puts_append (es fs : List (Event α)) : puts (es ++ fs) = puts es ++ puts fs := by
  induction es with
  | nil => rfl
  | cons e es ih =>
    cases e with
    | put a => exact congrArg (a :: ·) ih
    | take a => exact ih

theorem takes_append (es fs : List (Event α)) : takes (es ++ fs) = takes es ++ takes fs := by
  induction es with
  | nil => rfl
  | cons e es ih =>
    cases e with
    | put a => exact ih
    | take a => exact congrArg (a :: ·) ih

section Replay

variable [DecidableEq α]

theorem replay_append (es fs : List (Event α)) (slot : Option α) :
    replay (es ++ fs) slot = (replay es slot).bind (replay fs) := by
  induction es generalizing slot with
  | nil => rfl
  | cons e es ih =>
    rw [List.cons_append, replay, replay]
    cases deliver slot e with
    | none => rfl
    | some t => exact ih t

theorem replay_put {es : List (Event α)} {slot t : Option α} (h : replay es slot = some t)
    (a : α) : replay (es ++ [.put a]) slot = some (some a) := by
  rw [replay_append, h]
  rfl

theorem replay_take {es : List (Event α)} {slot : Option α} {a : α}
    (h : replay es slot = some (some a)) : replay (es ++ [.take a]) slot = some none := by
  rw [replay_append, h]
  simp [replay, deliver]

private theorem takes_from (log : List (Event α)) (slot t : Option α)
    (h : replay log slot = some t) :
    (takes log ++ t.toList).Sublist (slot.toList ++ puts log) := by
  induction log generalizing slot with
  | nil =>
    obtain rfl : slot = t := by simpa [replay] using h
    simp [takes, puts]
  | cons e es ih =>
    cases e with
    | put a =>
      have hrest := ih (some a) h
      exact hrest.trans (List.sublist_append_right _ _)
    | take a =>
      rw [replay, deliver] at h
      split_ifs at h with hslot
      · have hrest := ih none h
        rw [hslot]
        exact hrest.cons_cons a
      · cases h

/-- Whatever the interleaving, the taken values are some of the put ones, each taken at most
once and in the order of the puts. -/
theorem takes_sublist_puts {log : List (Event α)} {t : Option α} (h : replay log none = some t) :
    (takes log).Sublist (puts log) :=
  (List.sublist_append_left _ _).trans (takes_from log none t h)

/-- The history without the takes of values outside `p`. -/
def ignoring (p : α → Bool) (log : List (Event α)) : List (Event α) :=
  log.filter fun
    | .put _ => true
    | .take a => p a

omit [DecidableEq α] in
theorem ignoring_append (p : α → Bool) (es fs : List (Event α)) :
    ignoring p (es ++ fs) = ignoring p es ++ ignoring p fs := List.filter_append es fs

theorem replay_ignoring_put {p : α → Bool} {es : List (Event α)} {slot t : Option α}
    (h : replay (ignoring p es) slot = some t) (a : α) :
    replay (ignoring p (es ++ [.put a])) slot = some (some a) := by
  rw [ignoring_append]
  exact replay_put h a

theorem replay_ignoring_outside {p : α → Bool} (es : List (Event α)) (slot : Option α) {a : α}
    (ha : p a = false) :
    replay (ignoring p (es ++ [.take a])) slot = replay (ignoring p es) slot := by
  rw [ignoring_append]
  simp [ignoring, ha]

theorem replay_ignoring_take {p : α → Bool} {es : List (Event α)} {slot : Option α} {a : α}
    (h : replay (ignoring p es) slot = some (some a)) :
    (replay (ignoring p (es ++ [.take a])) slot).isSome = true := by
  cases ha : p a with
  | false => rw [replay_ignoring_outside es slot ha, h, Option.isSome_some]
  | true =>
    have hkeep : ignoring p [.take a] = [.take a] := by simp [ignoring, ha]
    rw [ignoring_append, hkeep, replay_take h, Option.isSome_some]

omit [DecidableEq α] in
private theorem puts_ignoring (p : α → Bool) (log : List (Event α)) :
    puts (ignoring p log) = puts log := by
  induction log with
  | nil => rfl
  | cons e es ih =>
    cases e with
    | put a => exact congrArg (a :: ·) ih
    | take a =>
      cases hp : p a <;> simpa [ignoring, hp, puts] using ih

omit [DecidableEq α] in
private theorem takes_ignoring (p : α → Bool) (log : List (Event α)) :
    takes (ignoring p log) = (takes log).filter p := by
  induction log with
  | nil => rfl
  | cons e es ih =>
    cases e with
    | put a => exact ih
    | take a =>
      cases hp : p a <;> simpa [ignoring, hp, takes] using ih

/-- The same for the takes inside `p`, when the other takes do not come from the slot. -/
theorem filtered_takes_sublist_puts {p : α → Bool} {log : List (Event α)} {t : Option α}
    (h : replay (ignoring p log) none = some t) : ((takes log).filter p).Sublist (puts log) := by
  rw [← takes_ignoring, ← puts_ignoring p]
  exact takes_sublist_puts h

end Replay

end KinectHelper.Mailbox
