import PacketFraming.Proofs.Collecting
import PacketFraming.Proofs.Scan
import PacketFraming.Proofs.Search

/-! A receiver finds what a scan finds.

The stream is followed piece by piece: up to the end of an access code, through the header
behind it, and through the payload. Each piece has a lemma that says how a receiver leaves it;
between two headers the receiver has nothing but its position and its skip count. -/

namespace PacketFraming

namespace Receiver

/-! ## Between headers -/

structure Tuned (layout : Layout) (threshold : Nat) (receiver : Receiver) : Prop where
  code : receiver.correlator.code = layout.accessCode
  threshold : receiver.correlator.threshold = threshold

structure Waits (layout : Layout) (threshold : Nat) (receiver : Receiver) : Prop
    extends receiver.Tuned layout threshold where
  heard : receiver.correlator.Heard []
  vacant : receiver.register.bits = []
  phase : receiver.phase = waitingPhase layout.accessCode

theorem Tuned.waits_wait {layout : Layout} {threshold : Nat} {receiver : Receiver}
    (tuned : receiver.Tuned layout threshold) : receiver.wait.Waits layout threshold where
  code := tuned.code
  threshold := tuned.threshold
  heard := receiver.correlator.heard_reset
  vacant := receiver.register.bits_clear
  phase := congrArg waitingPhase tuned.code

structure Begins (layout : Layout) (threshold : Nat) (receiver : Receiver) : Prop
    extends receiver.Tuned layout threshold where
  vacant : receiver.register.bits = []
  phase : receiver.phase = .collecting

theorem matches_extract_iff (code : AccessCode) (threshold : Nat) (items : List UInt8)
    {start finish : Nat} (after : start ≤ finish) (inside : finish ≤ items.length) :
    Matches code threshold ((items.extract start finish).map itemBit) ↔
      start + code.length ≤ finish ∧ Scan.codeEndsAt code threshold items finish = true := by
  have length : ((items.extract start finish).map itemBit).length = finish - start := by
    rw [List.length_map, length_extract start inside]
  have enough_iff : code.length ≤ finish - start ↔ start + code.length ≤ finish := by omega
  unfold Matches Scan.codeEndsAt Correlator.window
  rw [length, decide_eq_true_iff, enough_iff]
  refine and_congr_right fun enough => ?_
  have place : start + (finish - start - code.length) = finish - code.length := by omega
  have rest : finish - start - (finish - start - code.length) =
      finish - (finish - code.length) := by omega
  have same : (items.extract start finish).drop (finish - start - code.length) =
      items.extract (finish - code.length) finish := by
    rw [List.extract_eq_take_drop, List.extract_eq_take_drop, List.drop_take, List.drop_drop,
      place, rest]
  rw [← List.map_drop, same]

theorem receive_of_nowhere (layout : Layout) {threshold : Nat} {receiver : Receiver}
    (waits : receiver.Waits layout threshold) (present : ¬layout.accessCode.isEmpty = true)
    (items : List UInt8) {start limit : Nat} (inside : limit ≤ items.length)
    (nowhere : ∀ finish, start + layout.accessCode.length ≤ finish → finish ≤ limit →
      ¬Scan.codeEndsAt layout.accessCode threshold items finish = true) :
    (receiver.receive layout (items.extract start limit)).records = #[] ∧
      ∃ correlator : Correlator,
        correlator.Heard ((items.extract start limit).map itemBit) ∧
        correlator.code = layout.accessCode ∧ correlator.threshold = threshold ∧
        (receiver.receive layout (items.extract start limit)).receiver = { receiver with
          correlator
          skipped := receiver.skipped + (limit - start)
          position := receiver.position + (limit - start) } := by
  have searching : receiver.phase = .searching := by
    rw [waits.phase, waitingPhase, if_neg present]
  have silent : ∀ front item rest, items.extract start limit = front ++ item :: rest →
      ¬Matches receiver.correlator.code receiver.correlator.threshold
        ([] ++ front.map itemBit ++ [itemBit item]) := by
    intro front item rest parts
    have length := length_extract start inside
    rw [parts, List.length_append, List.length_cons] at length
    have cut : items.extract start (start + front.length + 1) = front ++ [item] := by
      have taken : (items.extract start limit).take (front.length + 1) = front ++ [item] := by
        rw [parts, List.append_cons]
        exact List.take_left' (by simp)
      rw [List.extract_eq_take_drop, List.take_take] at taken
      rw [List.extract_eq_take_drop, ← taken]
      congr 1
      omega
    have ends := matches_extract_iff layout.accessCode threshold items
      (show start ≤ start + front.length + 1 by omega) (by omega)
    rw [cut, List.map_append] at ends
    rw [waits.code, waits.threshold, List.nil_append]
    intro found
    rcases ends.mp found with ⟨enough, close⟩
    exact nowhere _ enough (by omega) close
  rcases receive_of_all_silent layout searching waits.heard _ silent with
    ⟨none, correlator, heard, code, threshold_eq, ending⟩
  rw [length_extract start inside] at ending
  exact ⟨none, correlator, heard, code.trans waits.code, threshold_eq.trans waits.threshold,
    ending⟩

theorem receive_of_codeEnd (layout : Layout) {threshold : Nat} {receiver : Receiver}
    (waits : receiver.Waits layout threshold) {items : List UInt8} {start finish : Nat}
    (found : Scan.codeEnd? layout.accessCode threshold items start = some finish) :
    (receiver.receive layout (items.extract start finish)).records = #[] ∧
      (receiver.receive layout (items.extract start finish)).receiver.Begins layout threshold ∧
      (receiver.receive layout (items.extract start finish)).receiver.skipped =
        receiver.skipped + (finish - start) := by
  by_cases empty : layout.accessCode.isEmpty = true
  · rw [Scan.codeEnd?_of_isEmpty empty, Option.some.injEq] at found
    subst found
    have nothing : items.extract start start = [] := by simp [List.extract_eq_take_drop]
    have collecting : receiver.phase = .collecting := by
      rw [waits.phase, waitingPhase, if_pos empty]
    rw [nothing, receive_nil, Nat.sub_self]
    exact ⟨rfl, { code := waits.code
                  threshold := waits.threshold
                  vacant := waits.vacant
                  phase := collecting }, rfl⟩
  · rcases (Scan.codeEnd?_eq_some empty).mp found with ⟨ends, ⟨after, before⟩, first⟩
    have some : layout.accessCode.length ≠ 0 := mt layout.accessCode.isEmpty_iff.mpr empty
    obtain ⟨last, rfl⟩ : ∃ last, finish = last + 1 := ⟨finish - 1, by omega⟩
    have vain : ∀ earlier, start + layout.accessCode.length ≤ earlier → earlier ≤ last →
        ¬Scan.codeEndsAt layout.accessCode threshold items earlier = true := by
      intro earlier later less
      exact first earlier later (Nat.lt_succ_of_le less)
    rcases receive_of_nowhere layout waits empty items (by omega) vain with
      ⟨none, correlator, heard, code, threshold_eq, silent⟩
    have searching : receiver.phase = .searching := by
      rw [waits.phase, waitingPhase, if_neg empty]
    have matched : Matches correlator.code correlator.threshold
        ((items.extract start last).map itemBit ++ [itemBit items[last]]) := by
      have both := (matches_extract_iff layout.accessCode threshold items
        (show start ≤ last + 1 by omega) before).mpr ⟨after, ends⟩
      rw [extract_succ items (by omega) (by omega), List.map_append] at both
      rw [code, threshold_eq]
      exact both
    rw [extract_succ items (by omega) (by omega), records_receive_append,
      receiver_receive_append, none, silent]
    rcases receive_of_matches layout { receiver with
        correlator
        skipped := receiver.skipped + (last - start)
        position := receiver.position + (last - start) } searching heard matched with
      ⟨still, begun⟩
    rw [still, begun]
    refine ⟨rfl, { code := code
                   threshold := threshold_eq
                   vacant := receiver.register.bits_clear
                   phase := rfl }, ?_⟩
    change receiver.skipped + (last - start) + 1 = _
    omega

/-! ## A header and its payload -/

section Header

variable {layout : Layout} {threshold : Nat} {receiver : Receiver}

theorem Begins.read?_withItems (begins : receiver.Begins layout threshold)
    (body : List UInt8) :
    layout.read? (receiver.withItems layout body).register = layout.readItems? body := by
  apply layout.read?_of_bits
  change (body.foldl layout.collect receiver.register).bits = _
  rw [layout.bits_foldl_collect, begins.vacant, List.nil_append]

theorem receive_of_rejected (begins : receiver.Begins layout threshold) {body : List UInt8}
    (whole : body.length = layout.bodyItems) (rejected : layout.readItems? body = none) :
    (receiver.receive layout body).records = #[] ∧
      (receiver.receive layout body).receiver.Waits layout threshold ∧
      (receiver.receive layout body).receiver.skipped = receiver.skipped + layout.bodyItems := by
  have judged : judge layout (receiver.withItems layout body) = {
      receiver := (receiver.withItems layout body).wait
      record := none
      events := [.headerRejected (receiver.withItems layout body).position] } := by
    simp only [judge, settle, begins.read?_withItems body, rejected]
  have tuned : (receiver.withItems layout body).Tuned layout threshold := {
    code := begins.code
    threshold := begins.threshold }
  rcases receive_of_body layout begins.phase begins.vacant whole with ⟨records, ending⟩
  rw [records, ending, judged]
  refine ⟨rfl, tuned.waits_wait, ?_⟩
  change receiver.skipped + body.length = _
  rw [whole]

def announcement (header : DecodedHeader) (skipped : Nat) : Metadata :=
  header.metadata.insert Metadata.skippedItemsKey (.natural skipped)

theorem get?_announcement (header : DecodedHeader) (skipped : Nat) :
    (announcement header skipped).get? Metadata.skippedItemsKey = some (.natural skipped) :=
  Metadata.get?_insert_self _ _ _

theorem judge_of_accepted (begins : receiver.Begins layout threshold) {body : List UInt8}
    (whole : body.length = layout.bodyItems) {header : DecodedHeader}
    (accepted : layout.readItems? body = some header) :
    (judge layout (receiver.withItems layout body)).record =
        some (announcement header (receiver.skipped + layout.bodyItems)) ∧
      (judge layout (receiver.withItems layout body)).receiver =
        if header.payloadItems = 0 then
          { (receiver.withItems layout body).wait with skipped := 0 }
        else
          { receiver.withItems layout body with
            skipped := 0
            phase := .passing header.payloadItems header.payloadItems } := by
  rw [← whole, judge, begins.read?_withItems body, accepted]
  exact ⟨rfl, rfl⟩

theorem receive_of_frame (begins : receiver.Begins layout threshold)
    {body payload : List UInt8} (whole : body.length = layout.bodyItems)
    {header : DecodedHeader} (accepted : layout.readItems? body = some header)
    (complete : payload.length = header.payloadItems) :
    (receiver.receive layout (body ++ payload)).records =
        #[announcement header (receiver.skipped + layout.bodyItems)] ∧
      (receiver.receive layout (body ++ payload)).receiver.Waits layout threshold ∧
      (receiver.receive layout (body ++ payload)).receiver.skipped = 0 := by
  have tuned : (receiver.withItems layout body).Tuned layout threshold := {
    code := begins.code
    threshold := begins.threshold }
  rcases receive_of_body layout begins.phase begins.vacant whole with ⟨records, ending⟩
  rcases judge_of_accepted begins whole accepted with ⟨record, judged⟩
  rw [records_receive_append, receiver_receive_append, records, ending, record, judged]
  by_cases zero : header.payloadItems = 0
  · have nothing : payload = [] := List.length_eq_zero_iff.mp (complete.trans zero)
    have waits := tuned.waits_wait
    rw [if_pos zero, nothing, receive_nil]
    exact ⟨rfl, { waits with }, rfl⟩
  · have some : payload ≠ [] := by
      rintro rfl
      exact zero complete.symm
    rw [if_neg zero, receive_of_passing layout rfl some (Nat.le_of_eq complete),
      records_start_add, record_pass, complete, pass, if_pos (Nat.sub_self _)]
    have waits := tuned.waits_wait
    exact ⟨rfl, { waits with }, rfl⟩

theorem receive_of_truncated (begins : receiver.Begins layout threshold)
    {body payload : List UInt8} (whole : body.length = layout.bodyItems)
    {header : DecodedHeader} (accepted : layout.readItems? body = some header)
    (cut : payload.length < header.payloadItems) :
    (receiver.receive layout (body ++ payload)).records =
        #[announcement header (receiver.skipped + layout.bodyItems)] ∧
      (receiver.receive layout (body ++ payload)).receiver.phase =
        .passing header.payloadItems (header.payloadItems - payload.length) := by
  rcases receive_of_body layout begins.phase begins.vacant whole with ⟨records, ending⟩
  rcases judge_of_accepted begins whole accepted with ⟨record, judged⟩
  rw [records_receive_append, receiver_receive_append, records, ending, record, judged,
    if_neg (by omega)]
  by_cases nothing : payload = []
  · rw [nothing, receive_nil]
    exact ⟨rfl, rfl⟩
  · rw [receive_of_passing layout rfl nothing (Nat.le_of_lt cut), records_start_add,
      record_pass]
    exact ⟨rfl, phase_pass _ _ cut⟩

end Header

/-! ## Whole streams -/

/-- From `start` on, a receiver reports what a scan has found and ends where it has ended. -/
structure Agrees (layout : Layout) (items : List UInt8) (start : Nat) (scan : Scan)
    (receiver : Receiver) : Prop where
  records : (receiver.receive layout (items.drop start)).records.toList =
    scan.headers.map FoundHeader.metadata
  phase : (receiver.receive layout (items.drop start)).receiver.phase = scan.phase

section Agrees

variable {layout : Layout} {threshold : Nat} {items : List UInt8} {start finish : Nat}
  {receiver : Receiver} {scan : Scan}

theorem agrees_of_extract (headers : List FoundHeader) (after : start ≤ finish)
    (reported : (receiver.receive layout (items.extract start finish)).records.toList =
      headers.map FoundHeader.metadata)
    (agrees : (receiver.receive layout (items.extract start finish)).receiver.Agrees layout items
      finish scan) :
    receiver.Agrees layout items start { scan with headers := headers ++ scan.headers } where
  records := by
    rw [drop_eq_extract_append items start finish after, records_receive_append,
      Array.toList_append, reported, agrees.records, List.map_append]
  phase := by
    rw [drop_eq_extract_append items start finish after, receiver_receive_append, agrees.phase]

theorem agrees_of_nowhere (waits : receiver.Waits layout threshold)
    (nowhere : Scan.codeEnd? layout.accessCode threshold items start = none) :
    receiver.Agrees layout items start { headers := [], phase := .searching } := by
  have present : ¬layout.accessCode.isEmpty = true := by
    intro empty
    rw [Scan.codeEnd?_of_isEmpty empty] at nowhere
    exact Option.some_ne_none _ nowhere
  rcases receive_of_nowhere layout waits present items (Nat.le_refl _)
      ((Scan.codeEnd?_eq_none present).mp nowhere) with
    ⟨none, correlator, -, -, -, silent⟩
  rw [← List.drop_eq_extract] at none silent
  constructor
  · rw [none]
    rfl
  · rw [silent]
    exact waits.phase.trans (if_neg present)

theorem agrees_of_codeEnd (waits : receiver.Waits layout threshold)
    (found : Scan.codeEnd? layout.accessCode threshold items start = some finish)
    (further : ∀ begun : Receiver, begun.Begins layout threshold →
      begun.skipped = receiver.skipped + (finish - start) → begun.Agrees layout items finish scan) :
    receiver.Agrees layout items start scan := by
  have after := Scan.le_of_codeEnd? found
  rcases receive_of_codeEnd layout waits found with ⟨none, begins, counted⟩
  exact agrees_of_extract [] (by omega) (congrArg Array.toList none) (further _ begins counted)

theorem agrees_of_rejected (begins : receiver.Begins layout threshold)
    (fits : start + layout.bodyItems ≤ items.length)
    (rejected : layout.readItems? (items.extract start (start + layout.bodyItems)) = none)
    (further : ∀ next : Receiver, next.Waits layout threshold →
      next.skipped = receiver.skipped + layout.bodyItems →
        next.Agrees layout items (start + layout.bodyItems) scan) :
    receiver.Agrees layout items start scan := by
  rcases receive_of_rejected begins (length_extract_add items fits) rejected with
    ⟨none, waits, counted⟩
  exact agrees_of_extract [] (Nat.le_add_right _ _) (congrArg Array.toList none)
    (further _ waits counted)

theorem announcement_eq (header : DecodedHeader) {skipped mark offset : Nat}
    (counted : skipped = offset - mark) :
    announcement header skipped = (FoundHeader.ofDecoded header mark offset).metadata := by
  rw [counted]
  rfl

theorem agrees_of_frame (begins : receiver.Begins layout threshold) {header : DecodedHeader}
    (accepted : layout.readItems? (items.extract start (start + layout.bodyItems)) = some header)
    (complete : start + layout.bodyItems + header.payloadItems ≤ items.length) {mark : Nat}
    (counted : receiver.skipped + layout.bodyItems = start + layout.bodyItems - mark)
    (further : ∀ next : Receiver, next.Waits layout threshold → next.skipped = 0 →
      next.Agrees layout items (start + layout.bodyItems + header.payloadItems) scan) :
    receiver.Agrees layout items start
      (scan.cons (.ofDecoded header mark (start + layout.bodyItems))) := by
  have fits : start + layout.bodyItems ≤ items.length := Nat.le_of_add_right_le complete
  rcases receive_of_frame begins (length_extract_add items fits) accepted
      (length_extract_add items complete) with ⟨one, waits, reset⟩
  rw [extract_append_extract items (Nat.le_add_right _ _) (Nat.le_add_right _ _)]
    at one waits reset
  refine agrees_of_extract [.ofDecoded header mark (start + layout.bodyItems)] (by omega) ?_
    (further _ waits reset)
  rw [one, announcement_eq header counted]
  rfl

theorem agrees_of_truncated (begins : receiver.Begins layout threshold) {header : DecodedHeader}
    (fits : start + layout.bodyItems ≤ items.length)
    (accepted : layout.readItems? (items.extract start (start + layout.bodyItems)) = some header)
    (cut : items.length < start + layout.bodyItems + header.payloadItems) {mark : Nat}
    (counted : receiver.skipped + layout.bodyItems = start + layout.bodyItems - mark) :
    receiver.Agrees layout items start {
      headers := [.ofDecoded header mark (start + layout.bodyItems)]
      phase := .passing header.payloadItems
        (header.payloadItems - (items.length - (start + layout.bodyItems))) } := by
  have length : (items.drop (start + layout.bodyItems)).length =
      items.length - (start + layout.bodyItems) := List.length_drop
  have missing : (items.drop (start + layout.bodyItems)).length < header.payloadItems := by
    omega
  rcases receive_of_truncated begins (length_extract_add items fits) accepted missing with
    ⟨one, passing⟩
  rw [← drop_eq_extract_append items _ _ (Nat.le_add_right _ _)] at one passing
  constructor
  · rw [one, announcement_eq header counted]
    rfl
  · rw [passing, length]

theorem agrees_of_short (begins : receiver.Begins layout threshold)
    (short : items.length < start + layout.bodyItems) :
    receiver.Agrees layout items start { headers := [], phase := .collecting } := by
  have few : (items.drop start).length < layout.bodyItems := by
    have some := layout.bodyItems_pos
    rw [List.length_drop]
    omega
  have unfilled : receiver.register.length +
      (items.drop start).length * layout.bitsPerItem < layout.bodyBits := by
    rw [← HeaderRegister.length_bits, begins.vacant, List.length_nil, Nat.zero_add,
      ← layout.bodyItems_mul_bitsPerItem]
    exact Nat.mul_lt_mul_of_pos_right few layout.bitsPerItem_pos
  rcases receive_of_short layout begins.phase (items.drop start) unfilled with ⟨none, kept⟩
  constructor
  · rw [none]
    rfl
  · rw [kept]
    exact begins.phase

end Agrees

/-- Between two headers, what is to come for a receiver is what a scan finds from there on. -/
theorem agrees_ofStream (layout : Layout) (threshold : Nat) (items : List UInt8)
    (start mark : Nat) {receiver : Receiver} (waits : receiver.Waits layout threshold)
    (inside : start ≤ items.length) (order : mark ≤ start)
    (skipped : receiver.skipped = start - mark) :
    receiver.Agrees layout items start (Scan.ofStream layout threshold items start mark) := by
  -- Wherever the scan goes on, the receiver waits with as much skipped as the scan has marked.
  fun_induction Scan.ofStream layout threshold items start mark generalizing receiver
  case case1 start mark nowhere =>
      exact agrees_of_nowhere waits nowhere
  case case2 start mark finish found bodyEnd fits rejected induction =>
      have after := Scan.le_of_codeEnd? found
      have place : bodyEnd = finish + layout.bodyItems := rfl
      apply agrees_of_codeEnd waits found
      intro begun begins counted
      apply agrees_of_rejected begins fits rejected
      intro next waitsAgain total
      exact induction waitsAgain fits (by omega) (by omega)
  case case3 start mark finish found bodyEnd fits header accepted payloadEnd complete
      induction =>
      have after := Scan.le_of_codeEnd? found
      apply agrees_of_codeEnd waits found
      intro begun begins counted
      apply agrees_of_frame begins accepted complete (by omega)
      intro next waitsAgain reset
      exact induction waitsAgain complete (Nat.le_refl _) (reset.trans (Nat.sub_self _).symm)
  case case4 start mark finish found bodyEnd fits header accepted payloadEnd cut =>
      have after := Scan.le_of_codeEnd? found
      apply agrees_of_codeEnd waits found
      intro begun begins counted
      exact agrees_of_truncated begins fits accepted (Nat.lt_of_not_le cut) (by omega)
  case case5 start mark finish found bodyEnd short =>
      apply agrees_of_codeEnd waits found
      intro begun begins counted
      exact agrees_of_short begins (Nat.lt_of_not_le short)

structure Fresh (layout : Layout) (threshold : Nat) (receiver : Receiver) : Prop
    extends receiver.Waits layout threshold where
  skipped : receiver.skipped = 0
  position : receiver.position = 0

theorem fresh_of_setThreshold (layout : Layout) {threshold : Nat} {receiver : Receiver}
    (accepted : (ofCode layout.accessCode).setThreshold threshold = .ok receiver) :
    receiver.Fresh layout threshold := by
  unfold setThreshold Correlator.setThreshold at accepted
  split at accepted
  · obtain rfl := Except.ok.inj accepted
    exact {
      code := rfl
      threshold := rfl
      heard := { history := rfl, filled := rfl }
      vacant := rfl
      phase := rfl
      skipped := rfl
      position := rfl }
  · exact absurd accepted (by simp [Except.map])

section Fresh

variable {layout : Layout} {threshold : Nat} {receiver : Receiver}
  (fresh : receiver.Fresh layout threshold)
include fresh

theorem Fresh.agrees (items : List UInt8) :
    receiver.Agrees layout items 0 (Scan.ofStream layout threshold items 0 0) :=
  agrees_ofStream layout threshold items 0 0 fresh.toWaits (Nat.zero_le _) (Nat.le_refl _)
    fresh.skipped

theorem Fresh.records_eq_scan (items : List UInt8) :
    (receiver.receive layout items).records.toList =
      (Scan.ofStream layout threshold items 0 0).headers.map FoundHeader.metadata :=
  (fresh.agrees items).records

theorem Fresh.phase_eq_scan (items : List UInt8) :
    (receiver.receive layout items).receiver.phase =
      (Scan.ofStream layout threshold items 0 0).phase :=
  (fresh.agrees items).phase

theorem Fresh.position_eq_length (items : List UInt8) :
    (receiver.receive layout items).receiver.position = items.length := by
  rw [position_receive, fresh.position, Nat.zero_add]

theorem Fresh.remaining_eq_scan (items : List UInt8) :
    (receiver.receive layout items).receiver.remaining =
      (Scan.ofStream layout threshold items 0 0).remaining :=
  congrArg (fun phase => ({ headers := [], phase } : Scan).remaining) (fresh.phase_eq_scan items)

end Fresh

end Receiver

namespace Transceiver

theorem fresh_of_setThreshold {layout : Layout} {threshold : Nat} {transceiver : Transceiver}
    (accepted : (ofLayout layout).setThreshold threshold = .ok transceiver) :
    transceiver.encoder = .ofLayout layout ∧
      transceiver.receiver.Fresh layout threshold := by
  unfold setThreshold at accepted
  cases result : (ofLayout layout).receiver.setThreshold threshold with
  | error cause =>
      rw [result] at accepted
      exact absurd accepted (by simp [Except.map])
  | ok receiver =>
      rw [result] at accepted
      obtain rfl := Except.ok.inj accepted
      exact ⟨rfl, Receiver.fresh_of_setThreshold layout result⟩

theorem setThreshold_of_ofConfig {config : LayoutConfig} {transceiver : Transceiver}
    (built : ofConfig config = .ok transceiver) :
    config.build = .ok transceiver.layout ∧
      (ofLayout transceiver.layout).setThreshold config.threshold.toNat = .ok transceiver := by
  unfold ofConfig at built
  cases selected : config.build with
  | error cause =>
      rw [selected] at built
      exact absurd built (by simp [bind, Except.bind])
  | ok layout =>
      rw [selected] at built
      change Except.mapError LayoutError.field _ = _ at built
      cases accepted : (ofLayout layout).setThreshold config.threshold.toNat with
      | error cause =>
          rw [accepted] at built
          exact absurd built nofun
      | ok result =>
          rw [accepted] at built
          obtain rfl := Except.ok.inj built
          have same : result.layout = layout :=
            congrArg Encoder.layout (fresh_of_setThreshold accepted).1
          rw [same]
          exact ⟨rfl, accepted⟩

/-- From its first item on, a receiver reports the headers that a scan of the whole stream
finds, in order, and ends where the scan ends. -/
theorem receive_eq_scan (layout : Layout) (threshold : Nat) {transceiver : Transceiver}
    (accepted : (ofLayout layout).setThreshold threshold = .ok transceiver)
    (items : List UInt8) :
    (transceiver.receive items).records.toList =
        (Scan.ofStream layout threshold items 0 0).headers.map FoundHeader.metadata ∧
      (transceiver.receive items).records.toList.map (·.get? Metadata.skippedItemsKey) =
        (Scan.ofStream layout threshold items 0 0).headers.map
          (fun header => some (.natural header.skipped)) ∧
      (transceiver.receive items).receiver.phase =
        (Scan.ofStream layout threshold items 0 0).phase ∧
      (transceiver.receive items).receiver.position = items.length ∧
      (transceiver.receive items).receiver.remaining =
        (Scan.ofStream layout threshold items 0 0).remaining := by
  rcases fresh_of_setThreshold accepted with ⟨encoder, fresh⟩
  rw [receive, show transceiver.layout = layout from congrArg Encoder.layout encoder]
  refine ⟨fresh.records_eq_scan items, ?_, fresh.phase_eq_scan items,
    fresh.position_eq_length items, fresh.remaining_eq_scan items⟩
  rw [fresh.records_eq_scan, List.map_map]
  exact List.map_congr_left fun header _ => header.get?_metadata

/-- A frame with a wrong bit in its access code, and a header whose payload is missing. -/
theorem receive_eq_scan_two_headers :
    ∃ transceiver,
      (ofLayout (.plain { code := Scan.sampleCode })).setThreshold 1 = .ok transceiver ∧
        (transceiver.receive (unpackBits
          [0xAD, 0, 1, 0, 1, 0x55, 0xAC, 0, 1, 0, 1])).records.toList =
          List.replicate 2 (.ofList [
            (Metadata.payloadBitsKey, .natural 8),
            (Metadata.skippedItemsKey, .natural 40)]) ∧
        (transceiver.receive (unpackBits
          [0xAD, 0, 1, 0, 1, 0x55, 0xAC, 0, 1, 0, 1])).receiver.phase = .passing 8 8 ∧
        (transceiver.receive (unpackBits
          [0xAD, 0, 1, 0, 1, 0x55, 0xAC, 0, 1, 0, 1])).receiver.position = 88 ∧
        (transceiver.receive (unpackBits
          [0xAD, 0, 1, 0, 1, 0x55, 0xAC, 0, 1, 0, 1])).receiver.remaining = 8 := by
  refine ⟨_, rfl, ?_⟩
  have result := receive_eq_scan (.plain { code := Scan.sampleCode }) 1 rfl
    (unpackBits [0xAD, 0, 1, 0, 1, 0x55, 0xAC, 0, 1, 0, 1])
  have headers : (Scan.ofStream (.plain { code := Scan.sampleCode }) 1
      (unpackBits [0xAD, 0, 1, 0, 1, 0x55, 0xAC, 0, 1, 0, 1]) 0 0).headers.map
        FoundHeader.metadata = List.replicate 2 (.ofList [
            (Metadata.payloadBitsKey, .natural 8),
            (Metadata.skippedItemsKey, .natural 40)]) := by
    decide +kernel
  have phase : (Scan.ofStream (.plain { code := Scan.sampleCode }) 1
      (unpackBits [0xAD, 0, 1, 0, 1, 0x55, 0xAC, 0, 1, 0, 1]) 0 0).phase = .passing 8 8 := by
    decide +kernel
  rw [Scan.remaining, headers, phase] at result
  exact ⟨result.1, result.2.2⟩

end Transceiver

end PacketFraming
