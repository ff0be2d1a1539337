import PacketFraming.Proofs.ItemAccounts
import PacketFraming.Proofs.Selection

/-! What the events of a receiver tell.

The events are a log of rounds, the last of which may still be under way. A round begins where the
search for a header is taken up: the access code is found, the header behind it is judged, and the
payload of an accepted header passes. What is known of a receiver between two passes is how far
the round that is under way has come. -/

namespace PacketFraming

/-! ## Logs -/

namespace Event

def position? : Event → Option Nat
  | codeFound _ position => some position
  | headerAccepted _ _ => none
  | headerRejected position => some position
  | payloadComplete _ position => some position

end Event

inductive Stage
  | searching
  | collecting
  | passing
deriving DecidableEq, Repr

def Phase.stage : Phase → Stage
  | searching => .searching
  | collecting => .collecting
  | passing _ _ => .passing

namespace Log

def waiting (code : AccessCode) : Stage :=
  (Receiver.waitingPhase code).stage

/-- The stage in which an event leaves the receiver; without one, it has just begun. -/
def stageBehind (code : AccessCode) : Option Event → Stage
  | some (.codeFound _ _) => .collecting
  | some (.headerAccepted _ (_ + 1)) => .passing
  | _ => waiting code

variable (layout : Layout) (threshold : Nat)

/-- How the search that is taken up at `start` arrives at the bits of a header, which follow
behind a position: with an access code, the code has to be found; without one, they follow at
once. -/
inductive Synced (start : Nat) : Nat → List Event → Prop
  | codeless (empty : layout.accessCode.isEmpty = true) : Synced start start []
  | found {distance position : Nat} (coded : layout.accessCode.isEmpty = false)
      (tolerated : distance ≤ threshold)
      (whole : start + layout.accessCode.length ≤ position) :
      Synced start position [.codeFound distance position]

/-- From a search that is taken up at `start` to the next one. -/
inductive Round (start : Nat) : Nat → List Event → Prop
  | rejected {behind : Nat} {front : List Event}
      (synced : Synced layout threshold start behind front) :
      Round start (behind + layout.bodyItems)
        (front ++ [.headerRejected (behind + layout.bodyItems)])
  | empty {behind skipped : Nat} {front : List Event}
      (synced : Synced layout threshold start behind front) :
      Round start (behind + layout.bodyItems) (front ++ [.headerAccepted skipped 0])
  | complete {behind skipped items : Nat} {front : List Event}
      (synced : Synced layout threshold start behind front) (some : 0 < items) :
      Round start (behind + layout.bodyItems + items)
        (front ++ [.headerAccepted skipped items,
          .payloadComplete items (behind + layout.bodyItems + items)])

/-- Rounds one after the other, of which the first begins with the first item. -/
inductive Rounds : Nat → List Event → Prop
  | none : Rounds 0 []
  | next {start finish : Nat} {events added : List Event} (before : Rounds start events)
      (round : Round layout threshold start finish added) : Rounds finish (events ++ added)

variable {layout} {threshold}

/-! ## Positions -/

/-- Positions that do not decrease, from `start` to `finish`. -/
structure Within (start finish : Nat) (events : List Event) : Prop where
  ordered : (events.filterMap Event.position?).Pairwise (· ≤ ·)
  from_start : ∀ position ∈ events.filterMap Event.position?, start ≤ position
  to_finish : ∀ position ∈ events.filterMap Event.position?, position ≤ finish
  start_le : start ≤ finish

theorem Within.nil (position : Nat) : Within position position [] where
  ordered := .nil
  from_start := nofun
  to_finish := nofun
  start_le := Nat.le_refl position

theorem Within.append {start middle finish : Nat} {first second : List Event}
    (front : Within start middle first) (rest : Within middle finish second) :
    Within start finish (first ++ second) where
  ordered := by
    rw [List.filterMap_append, List.pairwise_append]
    refine ⟨front.ordered, rest.ordered, ?_⟩
    intro early earlyMember late lateMember
    exact Nat.le_trans (front.to_finish early earlyMember) (rest.from_start late lateMember)
  from_start := by
    intro position member
    rw [List.filterMap_append, List.mem_append] at member
    rcases member with early | late
    · exact front.from_start position early
    · exact Nat.le_trans front.start_le (rest.from_start position late)
  to_finish := by
    intro position member
    rw [List.filterMap_append, List.mem_append] at member
    rcases member with early | late
    · exact Nat.le_trans (front.to_finish position early) rest.start_le
    · exact rest.to_finish position late
  start_le := Nat.le_trans front.start_le rest.start_le

theorem Within.singleton {start finish : Nat} (start_le : start ≤ finish) {event : Event}
    (named : ∀ position, event.position? = some position → position = finish) :
    Within start finish [event] := by
  have only (position : Nat) (member : position ∈ [event].filterMap Event.position?) :
      position = finish := by
    rcases List.mem_filterMap.mp member with ⟨same, memberSame, isPosition⟩
    obtain rfl := List.mem_singleton.mp memberSame
    exact named position isPosition
  exact {
    ordered := by
      rw [List.filterMap_cons]
      split
      · exact .nil
      · exact List.pairwise_singleton _ _
    from_start := fun position member => only position member ▸ start_le
    to_finish := fun position member => Nat.le_of_eq (only position member)
    start_le }

theorem Synced.within {start behind : Nat} {front : List Event}
    (synced : Synced layout threshold start behind front) : Within start behind front := by
  cases synced with
  | codeless empty => exact .nil start
  | found coded tolerated whole =>
      exact .singleton (by omega) fun position named => (Option.some.inj named).symm

theorem Round.within {start finish : Nat} {events : List Event}
    (round : Round layout threshold start finish events) : Within start finish events := by
  cases round with
  | rejected synced =>
      exact synced.within.append
        (.singleton (Nat.le_add_right _ _) fun position named => (Option.some.inj named).symm)
  | empty synced => exact synced.within.append (.singleton (Nat.le_add_right _ _) nofun)
  | @complete behind skipped items front synced some =>
      have accepted : Within behind (behind + layout.bodyItems) [.headerAccepted skipped items] :=
        .singleton (Nat.le_add_right _ _) nofun
      exact synced.within.append (accepted.append
        (.singleton (Nat.le_add_right _ _) fun position named => (Option.some.inj named).symm))

theorem Rounds.within {finish : Nat} {events : List Event}
    (rounds : Rounds layout threshold finish events) : Within 0 finish events := by
  induction rounds with
  | none => exact .nil 0
  | next before round induction => exact induction.append round.within

/-! ## The last event -/

theorem Rounds.stageBehind_eq {finish : Nat} {events : List Event}
    (rounds : Rounds layout threshold finish events) :
    stageBehind layout.accessCode events.getLast? = waiting layout.accessCode := by
  cases rounds with
  | none => rfl
  | next before round =>
      cases round with
      | rejected | empty | complete => simp [stageBehind]

end Log

/-! ## Receivers -/

theorem Correlator.le_threshold_of_found? {correlator : Correlator} {distance : Nat}
    (found : correlator.found? = some distance) : distance ≤ correlator.threshold := by
  unfold found? at found
  split at found
  · cases found
  · split at found
    · next tolerated => exact Option.some.inj found ▸ tolerated
    · cases found

namespace Receiver

/-- How far the round has come that is under way. -/
inductive Tells (layout : Layout) (threshold : Nat) (receiver : Receiver) : List Event → Prop
  | searching {start : Nat} {events : List Event}
      (rounds : Log.Rounds layout threshold start events)
      (phase : receiver.phase = .searching) (coded : layout.accessCode.isEmpty = false)
      (heard : start + receiver.correlator.filled ≤ receiver.position) :
      Tells layout threshold receiver events
  | collecting {start behind read : Nat} {events front : List Event}
      (rounds : Log.Rounds layout threshold start events)
      (synced : Log.Synced layout threshold start behind front)
      (phase : receiver.phase = .collecting)
      (held : receiver.register.length = read * layout.bitsPerItem)
      (reached : behind + read = receiver.position) :
      Tells layout threshold receiver (events ++ front)
  | passing {start behind skipped items remaining : Nat} {events front : List Event}
      (rounds : Log.Rounds layout threshold start events)
      (synced : Log.Synced layout threshold start behind front)
      (phase : receiver.phase = .passing items remaining) (some : 0 < items)
      (reached : receiver.position + remaining = behind + layout.bodyItems + items) :
      Tells layout threshold receiver (events ++ (front ++ [.headerAccepted skipped items]))

variable {layout : Layout} {threshold : Nat} {receiver : Receiver}

theorem Tells.of_waiting {finish : Nat} {events : List Event}
    (rounds : Log.Rounds layout threshold finish events)
    (phase : receiver.phase = waitingPhase layout.accessCode)
    (silent : receiver.correlator.filled = 0) (vacant : receiver.register.length = 0)
    (reached : receiver.position = finish) : receiver.Tells layout threshold events := by
  unfold waitingPhase at phase
  split at phase
  · next empty =>
    have synced : Log.Synced layout threshold finish finish [] := .codeless empty
    have tells : receiver.Tells layout threshold (events ++ []) :=
      .collecting rounds synced phase (vacant.trans (Nat.zero_mul _).symm) reached.symm
    rw [List.append_nil] at tells
    exact tells
  · next coded =>
    exact .searching rounds phase (Bool.eq_false_iff.mpr coded) (by omega)

theorem Consistent.position_eq (consistent : receiver.Consistent layout)
    (collecting : receiver.phase = .collecting) {behind read : Nat}
    (held : receiver.register.length = read * layout.bitsPerItem)
    (reached : behind + read = receiver.position) {item : UInt8}
    (filled : layout.bodyBits ≤ (layout.collect receiver.register item).length) :
    receiver.position + 1 = behind + layout.bodyItems := by
  have short := (consistent.collecting collecting).1
  rw [length_collect, held, ← Nat.succ_mul, ← layout.bodyItems_mul_bitsPerItem] at filled
  rw [held, ← layout.bodyItems_mul_bitsPerItem] at short
  have enough := Nat.le_of_mul_le_mul_right filled layout.bitsPerItem_pos
  have before := Nat.lt_of_mul_lt_mul_right short
  omega

theorem Tells.leads {events : List Event} (tells : receiver.Tells layout threshold events)
    (consistent : receiver.Consistent layout)
    (steady : receiver.correlator.threshold = threshold) {step : Step}
    (leads : receiver.Leads layout step) :
    step.receiver.Tells layout threshold (events ++ step.events) := by
  have code := consistent.code
  cases leads with
  | silent item searching nothing =>
      rw [List.append_nil]
      cases tells with
      | searching rounds phase coded heard =>
          refine .searching rounds phase coded ?_
          change _ + min (receiver.correlator.filled + 1) 64 ≤ receiver.position + 1
          omega
      | collecting rounds synced phase | passing rounds synced phase =>
          cases searching.symm.trans phase
  | found item distance searching tolerated =>
      cases tells with
      | searching rounds phase coded heard =>
          -- A correlator that has not heard a whole code since the search began finds none.
          have close := Correlator.le_threshold_of_found? tolerated
          have whole := Correlator.le_filled_of_found? tolerated
          change distance ≤ receiver.correlator.threshold at close
          change receiver.correlator.code.length ≤ min (receiver.correlator.filled + 1) 64 at whole
          rw [steady] at close
          rw [code] at whole
          exact .collecting rounds (.found coded close (by omega)) rfl (Nat.zero_mul _).symm rfl
      | collecting rounds synced phase | passing rounds synced phase =>
          cases searching.symm.trans phase
  | unfilled item collecting short =>
      rw [List.append_nil]
      cases tells with
      | @collecting start behind read events front rounds synced phase held reached =>
          have longer : (layout.collect receiver.register item).length =
              (read + 1) * layout.bitsPerItem := by
            rw [length_collect, held, Nat.succ_mul]
          exact .collecting rounds synced phase longer (congrArg (· + 1) reached)
      | searching rounds phase | passing rounds synced phase =>
          cases collecting.symm.trans phase
  | rejected item collecting filled unread =>
      cases tells with
      | @collecting start behind read events front rounds synced phase held reached =>
          have position := consistent.position_eq collecting held reached filled
          have round : Log.Round layout threshold start (behind + layout.bodyItems)
              (front ++ [.headerRejected (receiver.position + 1)]) :=
            position ▸ .rejected synced
          rw [List.append_assoc]
          exact .of_waiting (.next rounds round) (congrArg waitingPhase code) rfl rfl position
      | searching rounds phase | passing rounds synced phase =>
          cases collecting.symm.trans phase
  | accepted item header collecting filled read =>
      cases tells with
      | @collecting start behind read events front rounds synced phase held reached =>
          have position := consistent.position_eq collecting held reached filled
          rw [List.append_assoc]
          dsimp only
          unfold opened
          split
          · next none =>
            rw [none]
            exact .of_waiting (.next rounds (.empty synced)) (congrArg waitingPhase code) rfl rfl
              position
          · next some =>
            exact .passing rounds synced rfl (Nat.pos_of_ne_zero some)
              (congrArg (· + header.payloadItems) position)
      | searching rounds phase | passing rounds synced phase =>
          cases collecting.symm.trans phase
  | passed items remaining taken passing within moves =>
      cases tells with
      | @passing start behind _ items _ _ _ rounds synced phase some reached =>
          obtain ⟨rfl, rfl⟩ := Phase.passing.inj (passing.symm.trans phase)
          unfold pass
          dsimp only
          split
          · next none =>
            have position :
                receiver.position + taken = behind + layout.bodyItems + items := by omega
            rw [List.append_assoc, List.append_assoc, position]
            exact .of_waiting (.next rounds (.complete synced some)) (congrArg waitingPhase code)
              rfl rfl rfl
          · rw [List.append_nil]
            refine .passing rounds synced rfl some ?_
            -- What has passed and what is still to come add up to the end of the payload.
            change receiver.position + taken + (remaining - taken) = _
            omega
      | searching rounds phase | collecting rounds synced phase =>
          cases passing.symm.trans phase

theorem Tells.reset (consistent : receiver.Consistent layout) :
    receiver.reset.Tells layout threshold [] :=
  .of_waiting .none (congrArg waitingPhase consistent.code) rfl rfl rfl

theorem threshold_leads {step : Step} (leads : receiver.Leads layout step) :
    step.receiver.correlator.threshold = receiver.correlator.threshold := by
  cases leads with
  | silent | found | unfilled | rejected => rfl
  | accepted =>
      dsimp only
      unfold opened
      split <;> rfl
  | passed =>
      unfold pass
      dsimp only
      split <;> rfl

structure Logged (layout : Layout) (threshold : Nat) (receiver : Receiver)
    (trace : List Pass) : Prop where
  accounted : receiver.Accounted layout trace
  steady : receiver.correlator.threshold = threshold
  tells : receiver.Tells layout threshold (Pass.events trace)

theorem Logged.leads {trace : List Pass} {step : Step} (leads : receiver.Leads layout step)
    (logged : receiver.Logged layout threshold trace) :
    step.receiver.Logged layout threshold (trace ++ [{ phase := receiver.phase, step }]) where
  accounted := (kept_accounted layout).leads leads logged.accounted
  steady := (threshold_leads leads).trans logged.steady
  tells := by
    rw [Pass.events_append, Pass.events, Pass.events, List.flatMap_singleton]
    exact logged.tells.leads logged.accounted.consistent logged.steady leads

theorem Logged.reset {trace : List Pass} (logged : receiver.Logged layout threshold trace) :
    receiver.reset.Logged layout threshold [] where
  accounted := (kept_accounted layout).reset logged.accounted
  steady := logged.steady
  tells := .reset logged.accounted.consistent

theorem logged_tolerating (within : threshold ≤ layout.accessCode.length) :
    (tolerating layout.accessCode threshold).Logged layout threshold [] where
  accounted := (kept_accounted layout).setThreshold (setThreshold_ofCode within)
    (accounted_ofCode layout)
  steady := rfl
  tells := .of_waiting .none rfl rfl rfl rfl

end Receiver

namespace Log

/-- What a log tells of all that a receiver has been through, and of what it does now. -/
structure Faithful (layout : Layout) (threshold : Nat) (events : List Event)
    (records : List Metadata) (receiver : Receiver) : Prop where
  /-- The events are rounds, up to a point in the last one. -/
  rounds : ∃ finish whole, Rounds layout threshold finish whole ∧ events <+: whole
  /-- Every accepted header has its record, which tells the same. -/
  told : List.Forall₂
    (fun announced record => announced.ToldBy layout record ∧
      record.get? Metadata.skippedItemsKey = some (.natural announced.skipped))
    (events.filterMap Event.announced?) records
  ordered : (events.filterMap Event.position?).Pairwise (· ≤ ·)
  stage : receiver.phase.stage = stageBehind layout.accessCode events.getLast?

end Log

namespace Receiver

variable {layout : Layout} {threshold : Nat} {receiver : Receiver} {events : List Event}

theorem Tells.exists_rounds (tells : receiver.Tells layout threshold events) :
    ∃ finish whole, Log.Rounds layout threshold finish whole ∧ events <+: whole := by
  cases tells with
  | searching rounds => exact ⟨_, _, rounds, List.prefix_refl _⟩
  | @collecting start behind read events front rounds synced =>
      refine ⟨_, _, .next rounds (.rejected synced), ?_⟩
      rw [← List.append_assoc]
      exact List.prefix_append _ _
  | @passing start behind skipped items remaining events front rounds synced phase some =>
      have round : Log.Round layout threshold start (behind + layout.bodyItems + items)
          (front ++ [.headerAccepted skipped items,
            .payloadComplete items (behind + layout.bodyItems + items)]) :=
        .complete synced some
      refine ⟨_, _, .next rounds round, ?_⟩
      exact (List.prefix_append_right_inj _).mpr
        ((List.prefix_append_right_inj _).mpr (List.prefix_append [_] [_]))

theorem Tells.stage_eq (tells : receiver.Tells layout threshold events) :
    receiver.phase.stage = Log.stageBehind layout.accessCode events.getLast? := by
  cases tells with
  | searching rounds phase coded =>
      rw [rounds.stageBehind_eq, phase, Log.waiting, waitingPhase, coded]
      rfl
  | @collecting start behind read events front rounds synced phase =>
      cases synced with
      | codeless empty =>
          rw [List.append_nil, rounds.stageBehind_eq, phase, Log.waiting, waitingPhase, empty]
          rfl
      | found => simp [phase, Phase.stage, Log.stageBehind]
  | @passing start behind skipped items remaining events front rounds synced phase some =>
      rcases Nat.exists_eq_succ_of_ne_zero (Nat.ne_of_gt some) with ⟨others, rfl⟩
      simp [phase, Phase.stage, Log.stageBehind]

theorem Logged.faithful {trace : List Pass} (logged : receiver.Logged layout threshold trace) :
    Log.Faithful layout threshold (Pass.events trace) (Pass.records trace) receiver where
  rounds := logged.tells.exists_rounds
  told := logged.accounted.balanced.told.imp fun announced record told =>
    ⟨told, told.get?_skipped⟩
  ordered := by
    rcases logged.tells.exists_rounds with ⟨finish, whole, rounds, front⟩
    exact rounds.within.ordered.sublist (front.sublist.filterMap Event.position?)
  stage := logged.tells.stage_eq

end Receiver

namespace SharedTransceiver

theorem logged_after {layout : Layout} {threshold : Nat}
    (within : threshold ≤ layout.accessCode.length) {calls : List Call}
    (steady : ∀ threshold, .setThreshold threshold ∉ calls) {device : SharedTransceiver}
    (same : device.codec.layout = layout)
    (fresh : device.receiver = .tolerating layout.accessCode threshold) :
    (device.after calls).receiver.Logged layout threshold (device.trace calls) := by
  have logged : device.receiver.Logged layout threshold [] :=
    fresh ▸ Receiver.logged_tolerating within
  exact @keeps_traceFrom layout (Receiver.Logged layout threshold) Receiver.Logged.leads
    Receiver.Logged.reset device same [] logged calls fun called => absurd called (steady _)

/-- Whatever is called on a device that has been built from a selection, as long as the threshold
stays as it was selected, the events since the start or the last reset are rounds in their order,
they match the records, and the last one tells what the receiver does. -/
theorem events_logged {config : LayoutConfig} {device : SharedTransceiver}
    (built : ofConfig config = .ok device) {calls : List Call}
    (steady : ∀ threshold, .setThreshold threshold ∉ calls) :
    Log.Faithful device.codec.layout config.threshold.toNat (device.eventsSince calls)
      (device.recordsSince calls) (device.after calls).receiver := by
  rcases exists_layout_of_ofConfig built with ⟨layout, selected, within, rfl⟩
  rw [eventsSince_eq, recordsSince_eq]
  exact (logged_after within steady rfl rfl).faithful

/-- An access code with a wrong bit in it, which comes in two pieces, and the header of an empty
payload behind it. -/
theorem events_logged_in_pieces :
    let calls : List Call :=
      [.receive [1, 0, 1], .receive ([0, 0, 1, 0, 0] ++ unpackBits [0, 0, 0, 0])]
    ∃ device, ofConfig (.plain { accessCode := "10101100", threshold := 1 }) = .ok device ∧
      (∀ threshold, .setThreshold threshold ∉ calls) ∧
      Log.Faithful device.codec.layout 1 (device.eventsSince calls) (device.recordsSince calls)
        (device.after calls).receiver ∧
      device.eventsSince calls = [.codeFound 1 8, .headerAccepted 40 0] ∧
      (∃ record, device.recordsSince calls = [record] ∧
        record.get? Metadata.skippedItemsKey = some (.natural 40)) ∧
      (device.after calls).receiver.phase.stage = .searching := by
  intro calls
  let layout : Layout := .plain { code := Scan.sampleCode }
  let device : SharedTransceiver := {
    codec := .ofLayout layout
    receiver := .tolerating Scan.sampleCode 1 }
  have built : ofConfig (.plain { accessCode := "10101100", threshold := 1 }) = .ok device := rfl
  have steady : ∀ threshold, .setThreshold threshold ∉ calls := by simp [calls]
  have faithful := events_logged built steady
  have consistent : device.receiver.Consistent layout :=
    (Receiver.logged_tolerating (by decide)).accounted.consistent
  have together : device.eventsSince calls = (device.receiver.receive layout
      ([1, 0, 1] ++ ([0, 0, 1, 0, 0] ++ unpackBits [0, 0, 0, 0]))).events.toList := by
    rw [Receiver.receive_append]
    simp only [calls, eventsSince, saidFrom, answer, Answer.events, receive, Prod.map_fst,
      Prod.map_snd, id, drive_fst, layout_drive, receiver_drive]
    rw [List.nil_append, ← Array.toList_append]
    rfl
  have events : device.eventsSince calls = [.codeFound 1 8, .headerAccepted 40 0] := by
    rw [together, Receiver.receive, Receiver.Consistent.feed_eq_foldl consistent]
    decide +kernel
  have told := faithful.told
  have stage := faithful.stage
  rw [events] at told stage
  rcases List.forall₂_cons_left_iff.mp told with ⟨record, others, first, rest, records⟩
  rw [List.forall₂_nil_left_iff.mp rest] at records
  exact ⟨device, built, steady, faithful, events, ⟨record, records, first.2⟩, stage⟩

end SharedTransceiver

end PacketFraming
