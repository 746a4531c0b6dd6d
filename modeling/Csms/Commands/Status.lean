import Mathlib.Data.Option.Basic

/-!
# Command statuses

The gateway reports what becomes of a command.  A status column is a plain text:
the statuses here are those the worker ranks, and other texts, such as the status
of a confirmed vehicle command, have no rank.
-/

namespace Csms.Commands

/-- The statuses of `command-status.ts`. -/
inductive CommandStatus where
  | queued
  | sent
  | dispatched
  | accepted
  | rejected
  | failed
  | timeout
  | duplicate
  deriving DecidableEq, Repr

namespace CommandStatus

def text : CommandStatus → String
  | queued => "Queued"
  | sent => "Sent"
  | dispatched => "Dispatched"
  | accepted => "Accepted"
  | rejected => "Rejected"
  | failed => "Failed"
  | timeout => "Timeout"
  | duplicate => "Duplicate"

def all : List CommandStatus :=
  [queued, sent, dispatched, accepted, rejected, failed, timeout, duplicate]

/-- The status a text is, when `isCommandStatus` accepts it. -/
def ofText? (value : String) : Option CommandStatus :=
  all.find? fun status => status.text = value

@[simp]
theorem ofText?_text (status : CommandStatus) : ofText? status.text = some status := by
  cases status <;> decide

theorem text_of_ofText? {value : String} {status : CommandStatus}
    (known : ofText? value = some status) : status.text = value := by
  rw [ofText?] at known
  simpa using List.find?_some known

/-- `TERMINAL_STATUSES`. -/
def isTerminalStatus : CommandStatus → Bool
  | accepted => true
  | rejected => true
  | failed => true
  | timeout => true
  | duplicate => true
  | _ => false

/-- `STATUS_RANK`. -/
def statusRank : CommandStatus → Nat
  | queued => 0
  | sent => 1
  | dispatched => 2
  | accepted => 3
  | rejected => 3
  | failed => 3
  | timeout => 3
  | duplicate => 3

end CommandStatus

open CommandStatus

def isTerminalText (value : String) : Bool :=
  (ofText? value).any isTerminalStatus

def statusRank? (value : String) : Option Nat :=
  (ofText? value).map statusRank

/-- The status a command in status `current` gets when `candidate` is reported. -/
def resolveNextStatus (current : String) (candidate : CommandStatus) : Option CommandStatus :=
  match ofText? current with
  | none => some candidate
  | some known =>
    if known = candidate then some candidate
    else if known.isTerminalStatus then none
    else if candidate.statusRank < known.statusRank then none
    else some candidate

def mapEventTypeToCommandStatus (eventType : String) : Option CommandStatus :=
  if eventType = "CommandRouted" then some .sent
  else if eventType = "CommandDispatched" then some .dispatched
  else if eventType = "CommandAccepted" then some .accepted
  else if eventType = "CommandRejected" then some .rejected
  else if eventType = "CommandFailed" then some .failed
  else if eventType = "CommandTimeout" then some .timeout
  else if eventType = "CommandDuplicate" then some .duplicate
  else none

variable {current : String}

/-- What a report leads to is the reported status or nothing. -/
theorem eq_of_resolveNextStatus {candidate next : CommandStatus}
    (resolved : resolveNextStatus current candidate = some next) : next = candidate := by
  rw [resolveNextStatus] at resolved
  split at resolved
  · exact (Option.some.inj resolved).symm
  · split at resolved
    · exact (Option.some.inj resolved).symm
    · split at resolved
      · contradiction
      · split at resolved
        · contradiction
        · exact (Option.some.inj resolved).symm

/-- A status is left for one that is not lower, and a terminal one for none. -/
theorem le_of_resolveNextStatus {candidate next known : CommandStatus}
    (resolved : resolveNextStatus current candidate = some next)
    (isKnown : ofText? current = some known) :
    known = next ∨ known.isTerminalStatus = false ∧ known.statusRank ≤ next.statusRank := by
  obtain rfl := eq_of_resolveNextStatus resolved
  simp only [resolveNextStatus, isKnown] at resolved
  split at resolved
  · exact Or.inl ‹_›
  · split at resolved
    · contradiction
    · rename_i notTerminal
      split at resolved
      · contradiction
      · rename_i higher
        exact Or.inr ⟨Bool.eq_false_iff.mpr notTerminal, Nat.le_of_not_lt higher⟩

/-- A status with a rank is followed by one with at least that rank. -/
def RankKept (before after : String) : Prop :=
  ∀ rank, statusRank? before = some rank → ∃ later, statusRank? after = some later ∧ rank ≤ later

theorem RankKept.refl (status : String) : RankKept status status :=
  fun rank hasRank => ⟨rank, hasRank, Nat.le_refl rank⟩

theorem RankKept.trans {first second third : String} (left : RankKept first second)
    (right : RankKept second third) : RankKept first third := by
  intro rank hasRank
  rcases left rank hasRank with ⟨middle, hasMiddle, le⟩
  rcases right middle hasMiddle with ⟨later, hasLater, leLater⟩
  exact ⟨later, hasLater, Nat.le_trans le leLater⟩

theorem rankKept_of_resolveNextStatus {candidate next : CommandStatus}
    (resolved : resolveNextStatus current candidate = some next) : RankKept current next.text := by
  intro rank hasRank
  rcases Option.map_eq_some_iff.mp hasRank with ⟨known, isKnown, rfl⟩
  refine ⟨next.statusRank, by rw [statusRank?, ofText?_text, Option.map_some], ?_⟩
  rcases le_of_resolveNextStatus resolved isKnown with rfl | ⟨_, le⟩
  · exact Nat.le_refl _
  · exact le

/-- A command in this status ignores reports of `candidate`: it is terminal, or
has a higher rank. -/
def Ignores (current : String) (candidate : CommandStatus) : Prop :=
  ∃ known, ofText? current = some known ∧
    (known.isTerminalStatus = true ∨ candidate.statusRank < known.statusRank)

theorem Ignores.of_resolveNextStatus {candidate other next : CommandStatus}
    (ignores : Ignores current candidate) (resolved : resolveNextStatus current other = some next) :
    Ignores next.text candidate := by
  rcases ignores with ⟨known, isKnown, reason⟩
  refine ⟨next, ofText?_text next, ?_⟩
  rcases le_of_resolveNextStatus resolved isKnown with rfl | ⟨notTerminal, le⟩
  · exact reason
  · rcases reason with terminal | lower
    · rw [notTerminal] at terminal
      contradiction
    · exact Or.inr (Nat.lt_of_lt_of_le lower le)

/-- A report is turned down exactly where it is ignored for another status. -/
theorem ignores_of_resolveNextStatus_eq_none {candidate : CommandStatus}
    (turnedDown : resolveNextStatus current candidate = none) : Ignores current candidate := by
  rw [resolveNextStatus] at turnedDown
  split at turnedDown
  · contradiction
  · rename_i known isKnown
    split at turnedDown
    · contradiction
    · split at turnedDown
      · exact ⟨known, isKnown, Or.inl ‹_›⟩
      · split at turnedDown
        · exact ⟨known, isKnown, Or.inr ‹_›⟩
        · contradiction

theorem Ignores.turned_down {candidate : CommandStatus} (ignores : Ignores current candidate) :
    resolveNextStatus current candidate = none ∨
      current = candidate.text ∧ candidate.isTerminalStatus = true := by
  rcases ignores with ⟨known, isKnown, reason⟩
  by_cases same : known = candidate
  · subst same
    rcases reason with terminal | lower
    · exact Or.inr ⟨(text_of_ofText? isKnown).symm, terminal⟩
    · exact absurd lower (Nat.lt_irrefl _)
  · left
    simp only [resolveNextStatus, isKnown, if_neg same]
    rcases reason with terminal | lower
    · rw [if_pos terminal]
    · rw [if_pos lower, ite_self]

end Csms.Commands
