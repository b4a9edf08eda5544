import Mathlib

/-!
# A box for one message

A message that is sent replaces the one in the box; receiving empties the box, and so does a reset.
Whatever the order of these operations, messages are delivered at most once and in the order in which
they were sent, and what is delivered after the box was empty was sent after it was.
-/

namespace Nutcracker

inductive MailOp (α : Type)
  | send (message : α)
  | receive
  | reset

namespace MailOp

variable {α : Type}

/-- What is in the box after an operation. -/
def left : MailOp α → Option α
  | .send message => some message
  | .receive | .reset => none

/-- What is in the box after operations, latest first. -/
def box : List (MailOp α) → Option α
  | [] => none
  | .send message :: _ => some message
  | .receive :: _ | .reset :: _ => none

/-- The messages that were sent, latest first. -/
def sent : List (MailOp α) → List α
  | [] => []
  | .send message :: ops => message :: sent ops
  | .receive :: ops | .reset :: ops => sent ops

/-- The messages that were delivered, latest first. -/
def delivered : List (MailOp α) → List α
  | [] => []
  | .receive :: ops => (box ops).toList ++ delivered ops
  | .send _ :: ops | .reset :: ops => delivered ops

theorem box_cons (op : MailOp α) (ops : List (MailOp α)) : box (op :: ops) = op.left := by
  cases op <;> rfl

/-- What is in the box was sent after everything that has been delivered. -/
theorem box_delivered_sublist (ops : List (MailOp α)) :
    ((box ops).toList ++ delivered ops).Sublist (sent ops) := by
  induction ops with
  | nil => exact List.Sublist.slnil
  | cons op ops ih =>
    cases op with
    | send message => exact ((List.sublist_append_right _ _).trans ih).cons_cons message
    | receive => exact ih
    | reset => exact (List.sublist_append_right _ _).trans ih

theorem delivered_sublist (ops : List (MailOp α)) : (delivered ops).Sublist (sent ops) :=
  (List.sublist_append_right _ _).trans (box_delivered_sublist ops)

/-- What is in the box after more operations than emptied it was sent since then. -/
theorem box_append_of_empty {earlier : List (MailOp α)} (h : box earlier = none)
    (ops : List (MailOp α)) : box (ops ++ earlier) = box ops := by
  cases ops with
  | nil => exact h
  | cons op ops => cases op <;> rfl

theorem delivered_append_of_empty {earlier : List (MailOp α)} (h : box earlier = none)
    (ops : List (MailOp α)) : delivered (ops ++ earlier) = delivered ops ++ delivered earlier := by
  induction ops with
  | nil => rfl
  | cons op ops ih =>
    cases op with
    | send | reset => exact ih
    | receive =>
      calc
        delivered (.receive :: (ops ++ earlier)) =
            (box (ops ++ earlier)).toList ++ delivered (ops ++ earlier) := rfl
        _ = (box ops).toList ++ (delivered ops ++ delivered earlier) := by
          rw [box_append_of_empty h, ih]
        _ = delivered (.receive :: ops) ++ delivered earlier := (List.append_assoc _ _ _).symm

end MailOp

end Nutcracker
