import Mathlib.Data.List.DropRight
import PacketFraming.Proofs.CodeWindow

/-! A correlator over all of its use.

Whatever has been pushed, and however often the correlator was reset or its threshold changed, it
compares the code with the newest bits since the last reset and reports the places in which they
differ, if those bits are enough and the places few. -/

namespace PacketFraming

namespace Correlator

/-! ## Uses of a correlator -/

inductive Call
  | push (item : UInt8)
  | setThreshold (threshold : Nat)
  | reset
deriving DecidableEq

namespace Call

def bit? : Call → Option Bool
  | push item => some (itemBit item)
  | _ => none

def threshold? : Call → Option Nat
  | setThreshold threshold => some threshold
  | _ => none

end Call

def after (correlator : Correlator) : Call → Correlator
  | .push item => (correlator.push (itemBit item)).1
  | .setThreshold threshold =>
      match correlator.setThreshold threshold with
      | .ok changed => changed
      | .error _ => correlator
  | .reset => correlator.reset

/-- A correlator for a code behind the calls made since it was built. -/
def afterAll (code : AccessCode) (calls : List Call) : Correlator :=
  calls.foldl after (ofCode code)

theorem afterAll_concat (code : AccessCode) (calls : List Call) (call : Call) :
    afterAll code (calls ++ [call]) = (afterAll code calls).after call :=
  List.foldl_append

/-! ## What a history amounts to -/

/-- The bits that were pushed since the last reset. -/
def bitsHeard (calls : List Call) : List Bool :=
  (calls.rtakeWhile (· ≠ .reset)).filterMap Call.bit?

/-- The last threshold asked for that was not longer than the code, and at first zero. -/
def tolerated (code : AccessCode) (calls : List Call) : Nat :=
  ((calls.filterMap Call.threshold?).filter (· ≤ code.length)).getLastD 0

def mismatches (code : AccessCode) (bits : List Bool) : Nat :=
  differences (window code bits) code.bits

section History

variable (calls : List Call)

theorem bitsHeard_push (item : UInt8) :
    bitsHeard (calls ++ [.push item]) = bitsHeard calls ++ [itemBit item] := by
  rw [bitsHeard, List.rtakeWhile_concat_pos _ _ _ rfl, List.filterMap_append]
  rfl

theorem bitsHeard_setThreshold (threshold : Nat) :
    bitsHeard (calls ++ [.setThreshold threshold]) = bitsHeard calls := by
  rw [bitsHeard, List.rtakeWhile_concat_pos _ _ _ rfl, List.filterMap_append]
  exact List.append_nil _

theorem bitsHeard_reset : bitsHeard (calls ++ [.reset]) = [] := by
  rw [bitsHeard, List.rtakeWhile_concat_neg _ _ _ Bool.false_ne_true]
  rfl

variable (code : AccessCode)

theorem tolerated_of_silent {call : Call} (silent : call.threshold? = none) :
    tolerated code (calls ++ [call]) = tolerated code calls := by
  rw [tolerated, List.filterMap_append, List.filterMap_cons_none silent, List.filterMap_nil,
    List.append_nil, tolerated]

theorem tolerated_setThreshold (threshold : Nat) :
    tolerated code (calls ++ [.setThreshold threshold]) =
      if threshold ≤ code.length then threshold else tolerated code calls := by
  have asked : [Call.setThreshold threshold].filterMap Call.threshold? = [threshold] := rfl
  rw [tolerated, List.filterMap_append, asked, List.filter_append, List.filter_singleton]
  by_cases within : threshold ≤ code.length
  · rw [if_pos within, decide_eq_true within, cond_true, List.getLastD_concat]
  · rw [if_neg within, decide_eq_false within, cond_false, List.append_nil, tolerated]

end History

/-! ## The invariant -/

/-- A correlator that has its code, the threshold in force and the bits since the last reset. -/
structure Tracks (correlator : Correlator) (code : AccessCode) (calls : List Call) : Prop where
  sameCode : correlator.code = code
  sameThreshold : correlator.threshold = tolerated code calls
  heard : correlator.Heard (bitsHeard calls)

variable {correlator : Correlator} {code : AccessCode} {calls : List Call}

theorem Tracks.refused (tracks : correlator.Tracks code calls) {threshold : Nat}
    (beyond : ¬threshold ≤ code.length) :
    correlator.setThreshold threshold = .error (.thresholdTooLarge threshold code.length) := by
  rw [setThreshold, tracks.sameCode, if_neg beyond]

theorem Tracks.after (tracks : correlator.Tracks code calls) (call : Call) :
    (correlator.after call).Tracks code (calls ++ [call]) := by
  cases call with
  | push item =>
      exact {
        sameCode := tracks.sameCode
        sameThreshold := by
          rw [tolerated_of_silent calls code rfl]
          exact tracks.sameThreshold
        heard := by
          rw [bitsHeard_push]
          exact tracks.heard.shift (itemBit item) }
  | setThreshold threshold =>
      have heard := tracks.heard
      have inForce := tolerated_setThreshold calls code threshold
      rw [← bitsHeard_setThreshold calls threshold] at heard
      by_cases within : threshold ≤ code.length
      · have accepted : correlator.setThreshold threshold = .ok { correlator with threshold } :=
          if_pos (tracks.sameCode ▸ within)
        rw [if_pos within] at inForce
        rw [Correlator.after, accepted]
        exact {
          sameCode := tracks.sameCode
          sameThreshold := inForce.symm
          heard := { history := heard.history, filled := heard.filled } }
      · have refused := tracks.refused within
        rw [if_neg within] at inForce
        rw [Correlator.after, refused]
        exact {
          sameCode := tracks.sameCode
          sameThreshold := tracks.sameThreshold.trans inForce.symm
          heard }
  | reset =>
      exact {
        sameCode := tracks.sameCode
        sameThreshold := by
          rw [tolerated_of_silent calls code rfl]
          exact tracks.sameThreshold
        heard := by
          rw [bitsHeard_reset]
          exact correlator.heard_reset }

theorem tracks_afterAll (code : AccessCode) (calls : List Call) :
    (afterAll code calls).Tracks code calls := by
  induction calls using List.reverseRecOn with
  | nil =>
      exact {
        sameCode := rfl
        sameThreshold := rfl
        heard := { history := rfl, filled := rfl } }
  | append_singleton calls call induction =>
      rw [afterAll_concat]
      exact induction.after call

/-! ## The window -/

/-- What a correlator says of the bits since its last reset, under the threshold in force. -/
structure Compares (correlator : Correlator) (code : AccessCode) (bits : List Bool)
    (threshold : Nat) : Prop where
  found_iff (item : UInt8) (distance : Nat) :
    (correlator.push (itemBit item)).2 = some distance ↔
      code.length ≤ (bits ++ [itemBit item]).length ∧
        distance = mismatches code (bits ++ [itemBit item]) ∧ distance ≤ threshold
  distance_eq : code.length ≤ bits.length → correlator.distance = mismatches code bits
  accepts_iff (asked : Nat) :
    (∃ changed, correlator.setThreshold asked = .ok changed) ↔ asked ≤ code.length
  /-- A threshold that is refused changes nothing. -/
  refused (asked : Nat) : ¬asked ≤ code.length →
    correlator.setThreshold asked = .error (.thresholdTooLarge asked code.length) ∧
      correlator.after (.setThreshold asked) = correlator

theorem Tracks.compares (tracks : correlator.Tracks code calls) :
    correlator.Compares code (bitsHeard calls) (tolerated code calls) where
  found_iff item distance := by
    have found := (tracks.heard.shift (itemBit item)).found?_eq
    change (correlator.push (itemBit item)).2 =
      if correlator.code.length ≤ _ ∧ mismatches correlator.code _ ≤ correlator.threshold
      then some (mismatches correlator.code _) else none at found
    rw [tracks.sameCode, tracks.sameThreshold] at found
    rw [found, Option.ite_none_right_eq_some]
    constructor
    · rintro ⟨⟨enough, few⟩, same⟩
      obtain rfl := Option.some.inj same
      exact ⟨enough, rfl, few⟩
    · rintro ⟨enough, rfl, few⟩
      exact ⟨⟨enough, few⟩, rfl⟩
  distance_eq enough := by
    have distance := tracks.heard.distance_eq (tracks.sameCode ▸ enough)
    rwa [tracks.sameCode] at distance
  accepts_iff asked := by
    rw [setThreshold, tracks.sameCode]
    split
    · next within => exact ⟨fun _ => within, fun _ => ⟨_, rfl⟩⟩
    · next beyond => exact ⟨nofun, fun within => absurd within beyond⟩
  refused asked beyond :=
    ⟨tracks.refused beyond, by rw [Correlator.after, tracks.refused beyond]⟩

/-- After any calls a correlator compares its code with the newest bits since the last reset, under
the last threshold that was accepted; a higher one finds whatever a lower one finds in the same
bits. -/
theorem compares_window (code : AccessCode) (calls : List Call) :
    (afterAll code calls).Compares code (bitsHeard calls) (tolerated code calls) ∧
    ∀ others, bitsHeard others = bitsHeard calls →
      tolerated code calls ≤ tolerated code others → ∀ item distance,
        ((afterAll code calls).push (itemBit item)).2 = some distance →
          ((afterAll code others).push (itemBit item)).2 = some distance := by
  have compares := (tracks_afterAll code calls).compares
  refine ⟨compares, fun others sameBits higher item distance found => ?_⟩
  have others_compare := (tracks_afterAll code others).compares
  rcases (compares.found_iff item distance).mp found with ⟨enough, same, few⟩
  rw [← sameBits] at enough same
  exact (others_compare.found_iff item distance).mpr ⟨enough, same, Nat.le_trans few higher⟩

/-- A code that begins with zeros. Right after a reset it takes sixteen bits to find it, although
the word holds it after eight ones. A threshold of seventeen is refused, and one of one finds what
none has found. -/
theorem compares_window_leading_zeros :
    let code : AccessCode := {
      word := 0xFF, length := 16, length_le := by decide, aligned := by decide
      word_lt := by decide }
    let ones : List Call := [.push 1, .reset] ++ List.replicate 7 (.push 1)
    let most : List Call := [.push 1, .reset] ++ List.replicate 8 (.push 0) ++
      List.replicate 7 (.push 1)
    (∀ distance, ((afterAll code ones).push (itemBit 3)).2 ≠ some distance) ∧
      ((afterAll code most).push (itemBit 3)).2 = some 0 ∧
      (afterAll code (most ++ [.push 3])).distance = 0 ∧
      ((afterAll code (.setThreshold 1 :: most)).push (itemBit 3)).2 = some 0 ∧
      (afterAll code most).setThreshold 17 = .error (.thresholdTooLarge 17 16) := by
  intro code ones most
  have found : ((afterAll code most).push (itemBit 3)).2 = some 0 :=
    ((compares_window code most).1.found_iff 3 0).mpr ⟨by decide, by decide, by decide⟩
  refine ⟨fun distance matched => ?_, found, ?_, ?_, ?_⟩
  · have heard := ((compares_window code ones).1.found_iff 3 distance).mp matched
    exact absurd heard.1 (by decide)
  · have distance := (compares_window code (most ++ [.push 3])).1.distance_eq (by decide)
    rw [distance]
    decide
  · exact (compares_window code most).2 (.setThreshold 1 :: most) (by decide) (by decide) 3 0 found
  · exact ((compares_window code most).1.refused 17 (by decide)).1

end Correlator

end PacketFraming
