import Mathlib.Data.List.DropRight
import Switchboard.Conversation

/-!
# What a log keeps

However many messages a log is given, it holds the latest of them, up to its limit. Clearing it starts
it anew.
-/

namespace Switchboard

theorem rtake_rtake_append {α : Type} (n : Nat) (l r : List α) :
    (l.rtake n ++ r).rtake n = (l ++ r).rtake n := by
  simp only [List.rtake_eq_reverse_take_reverse, List.reverse_append, List.reverse_reverse,
    List.take_append, List.take_take, Nat.min_eq_left (Nat.sub_le n _)]

namespace Log

theorem messages_add (log : Log) (m : Message) :
    (log.add m).messages = (log.messages ++ [m]).rtake log.limit.toNat := rfl

def addAll (log : Log) (messages : List Message) : Log := messages.foldl add log

theorem addAll_append (log : Log) (first second : List Message) :
    log.addAll (first ++ second) = (log.addAll first).addAll second :=
  List.foldl_append

/-- A log that holds the latest messages of a history goes on to do so. -/
theorem messages_addAll {log : Log} {history : List Message}
    (h : log.messages = history.rtake log.limit.toNat) (messages : List Message) :
    (log.addAll messages).messages = (history ++ messages).rtake log.limit.toNat := by
  induction messages generalizing log history with
  | nil => rwa [List.append_nil]
  | cons m messages ih =>
    have next : (log.add m).messages = (history ++ [m]).rtake (log.add m).limit.toNat := by
      rw [messages_add, h, rtake_rtake_append]
      rfl
    rw [List.append_cons]
    exact ih next

theorem messages_addAll_empty (limit : Int) (messages : List Message) :
    ((empty limit).addAll messages).messages = messages.rtake limit.toNat := by
  have start : (empty limit).messages = [].rtake (empty limit).limit.toNat := by
    rw [List.rtake_nil]
    rfl
  exact messages_addAll start messages

inductive Change where
  | add (m : Message)
  /-- A text of the user is logged. -/
  | hear (content : Value)
  /-- The answer to a text is logged. -/
  | answer (o : Outcome)
  | clear

namespace Change

def isClear : Change → Bool
  | clear => true
  | _ => false

def message? : Change → Option Message
  | add m => some m
  | hear content => some (.ofUser content)
  | answer o => some (.ofOutcome o)
  | clear => none

end Change

def change (log : Log) : Change → Log
  | .add m => log.add m
  | .hear content => log.add (.ofUser content)
  | .answer o => log.add (.ofOutcome o)
  | .clear => log.clear

def changeAll (log : Log) (changes : List Change) : Log := changes.foldl change log

/-- The messages that changes add after the last time that the log is cleared. -/
def addedSinceClear (changes : List Change) : List Message :=
  (changes.rtakeWhile (!·.isClear)).filterMap Change.message?

theorem changeAll_concat (log : Log) (changes : List Change) (c : Change) :
    log.changeAll (changes ++ [c]) = (log.changeAll changes).change c := by
  rw [changeAll, List.foldl_append]
  rfl

theorem addedSinceClear_clear (changes : List Change) :
    addedSinceClear (changes ++ [.clear]) = [] := by
  rw [addedSinceClear, List.rtakeWhile_concat_neg _ _ _ (by simp [Change.isClear])]
  rfl

theorem addedSinceClear_concat {c : Change} {m : Message} (adds : c.message? = some m)
    (changes : List Change) :
    addedSinceClear (changes ++ [c]) = addedSinceClear changes ++ [m] := by
  have goesOn : c.isClear = false := by
    cases c with
    | clear => cases adds
    | _ => rfl
  rw [addedSinceClear, List.rtakeWhile_concat_pos _ _ _ (by simp [goesOn]),
    List.filterMap_append, List.filterMap_cons_some adds]
  rfl

/-- A change adds its message, or clears the log. -/
theorem change_eq (log : Log) (c : Change) :
    (∃ m, c.message? = some m ∧ log.change c = log.add m) ∨
      c = .clear ∧ log.change c = log.clear := by
  cases c with
  | add m => exact .inl ⟨m, rfl, rfl⟩
  | hear content => exact .inl ⟨_, rfl, rfl⟩
  | answer o => exact .inl ⟨_, rfl, rfl⟩
  | clear => exact .inr ⟨rfl, rfl⟩

/-- Each change keeps the limit and leaves the latest messages since the last clearing. -/
theorem change_keeps {log : Log} {limit : Int} {changes : List Change} (same : log.limit = limit)
    (h : log.messages = (addedSinceClear changes).rtake limit.toNat) (c : Change) :
    (log.change c).limit = limit ∧
      (log.change c).messages = (addedSinceClear (changes ++ [c])).rtake limit.toNat := by
  subst same
  rcases change_eq log c with ⟨m, adds, changed⟩ | ⟨rfl, changed⟩
  · rw [changed, addedSinceClear_concat adds]
    refine ⟨rfl, ?_⟩
    rw [messages_add, h, rtake_rtake_append]
  · rw [changed, addedSinceClear_clear, List.rtake_nil]
    exact ⟨rfl, rfl⟩

theorem changeAll_empty (limit : Int) (changes : List Change) :
    ((empty limit).changeAll changes).limit = limit ∧
      ((empty limit).changeAll changes).messages =
        (addedSinceClear changes).rtake limit.toNat := by
  induction changes using List.reverseRecOn with
  | nil => exact ⟨rfl, (List.rtake_nil _).symm⟩
  | append_singleton changes c ih =>
    obtain ⟨same, kept⟩ := ih
    rw [changeAll_concat]
    exact change_keeps same kept c

theorem recent_suffix (log : Log) (n : Int) : log.recent (some n) <:+ log.messages :=
  List.drop_suffix _ _

theorem length_recent (log : Log) (n : Int) :
    (log.recent (some n)).length = min log.messages.length n.toNat := by
  rw [recent, List.length_drop]
  omega

/-- However a log is changed, it holds the latest messages that have been added since it was last
cleared, in order and up to its limit; a limit below one keeps none. What is recent are all of them, or
as many from the end as are asked for and there are. -/
theorem latest_of_changes (limit : Int) (changes : List Change) :
    let log := (empty limit).changeAll changes
    log.messages = (addedSinceClear changes).rtake limit.toNat ∧
      log.recent none = log.messages ∧
      ∀ n : Int, log.recent (some n) <:+ log.messages ∧
        (log.recent (some n)).length = min log.messages.length n.toNat := by
  intro log
  exact ⟨(changeAll_empty limit changes).2, rfl,
    fun n => ⟨recent_suffix log n, length_recent log n⟩⟩

end Log

end Switchboard
