import RpiDashboard.Network.BoundedReply

/-! Laws of the bounded reply: whatever the connection does, it ends with the payload or with
nothing. -/

namespace RpiDashboard.Network

open Qt

def Signal.payload : Signal → QByteArray
  | .arrived chunk => chunk
  | _ => []

/-- What arrives over a run. -/
def payload (signals : List Signal) : QByteArray := signals.flatMap Signal.payload

/-- The payload is too long, or a length that was declared is. -/
def Exceeds (maximumBytes : Nat) (signals : List Signal) : Prop :=
  maximumBytes < (payload signals).length ∨
    ∃ contentLength : Int, .metaDataChanged contentLength ∈ signals ∧ maximumBytes < contentLength

namespace BoundedReply

variable {connection : Connection} {fuel : Nat} {buffer after : BoundedReply}

section Consume

theorem consume_exceeded (h : buffer.exceededLimit) :
    buffer.consume connection (fuel + 1) = some buffer := by
  rw [consume, h]
  rfl

/-- An `abort` that calls `finish` is like one that does not. -/
theorem reject_eq (hfuel : 0 < fuel) :
    buffer.reject connection (consume connection fuel) = some buffer.rejected := by
  obtain ⟨fuel, rfl⟩ := Nat.exists_eq_succ_of_ne_zero hfuel.ne'
  unfold reject
  split
  · exact consume_exceeded rfl
  · rfl

section Fuel

variable {finish finish' : BoundedReply → Option BoundedReply}

theorem reject_mono
    (hfinish : ∀ buffer after, finish buffer = some after → finish' buffer = some after)
    (h : buffer.reject connection finish = some after) :
    buffer.reject connection finish' = some after := by
  unfold reject at h ⊢
  split
  case isTrue hre =>
    rw [if_pos hre] at h
    exact hfinish _ _ h
  case isFalse hre =>
    rw [if_neg hre] at h
    exact h

theorem turn_mono
    (hfinish : ∀ buffer after, finish buffer = some after → finish' buffer = some after)
    (h : buffer.turn connection finish = some after) :
    buffer.turn connection finish' = some after := by
  unfold turn at h ⊢
  dsimp only at h ⊢
  split
  case isTrue hlong =>
    rw [if_pos hlong] at h
    exact reject_mono hfinish h
  case isFalse hlong =>
    rw [if_neg hlong] at h
    exact h

/-- More fuel changes no result. -/
theorem consume_succ (h : buffer.consume connection fuel = some after) :
    buffer.consume connection (fuel + 1) = some after := by
  induction fuel generalizing buffer after with
  | zero => cases h
  | succ fuel ih =>
    rw [consume] at h ⊢
    split
    case isTrue hmore =>
      rw [if_pos hmore, Option.bind_eq_bind, Option.bind_eq_some_iff] at h
      obtain ⟨next, hturn, hrest⟩ := h
      rw [Option.bind_eq_bind, turn_mono (fun _ _ => ih) hturn]
      exact ih hrest
    case isFalse hdone =>
      rw [if_neg hdone] at h
      exact h

theorem consume_le {more : Nat} (hle : fuel ≤ more)
    (h : buffer.consume connection fuel = some after) :
    buffer.consume connection more = some after := by
  induction hle with
  | refl => exact h
  | step _ ih => exact consume_succ ih

end Fuel

/-- What has been read and what is still to be. -/
def received (buffer : BoundedReply) : QByteArray := buffer.body ++ buffer.reply.available

/-- Nothing has been rejected, nor would have had to be. -/
structure Within (buffer : BoundedReply) : Prop where
  exceededLimit : buffer.exceededLimit = false
  length_le : buffer.body.length ≤ buffer.maximumBytes

/-- What `consume` makes of a buffer: all that has been received, or nothing. -/
structure Consumed (buffer after : BoundedReply) : Prop where
  maximumBytes : after.maximumBytes = buffer.maximumBytes
  most : after.most ≤ max buffer.most (buffer.maximumBytes + 1)
  whole : buffer.received.length ≤ buffer.maximumBytes →
    after.exceededLimit = false ∧ after.body = buffer.received ∧ after.reply.available = []
  empty : buffer.maximumBytes < buffer.received.length → after.exceededLimit ∧ after.body = []

theorem read_eq (connection : Connection) (h : buffer.Within)
    (havailable : 0 < buffer.reply.bytesAvailable) :
    ∃ count reply, 1 ≤ count ∧ count ≤ buffer.reply.available.length ∧
      buffer.body.length + count ≤ buffer.maximumBytes + 1 ∧
      reply.available = buffer.reply.available.drop count ∧
      buffer.reply.read connection (min buffer.reply.bytesAvailable
          (buffer.maximumBytes - buffer.body.length + 1)) =
        (buffer.reply.available.take count, reply) := by
  have hlength := h.length_le
  unfold QNetworkReply.bytesAvailable at havailable ⊢
  generalize hsize : (min (buffer.reply.available.length : Int)
    (buffer.maximumBytes - buffer.body.length + 1)).toNat = size
  have hle := connection.count_le buffer.reply.reads size
  have hone := connection.one_le_count buffer.reply.reads size (by omega)
  refine ⟨connection.count buffer.reply.reads size, _, hone, by omega, by omega, ?_,
    by rw [QNetworkReply.read, hsize]⟩
  rfl

/-- A buffer after a turn, as long as it is not rejected: at least one byte has moved to its body,
and at most one too many. -/
structure Turned (buffer next : BoundedReply) : Prop where
  maximumBytes : next.maximumBytes = buffer.maximumBytes
  exceededLimit : next.exceededLimit = false
  received : next.received = buffer.received
  length_le : next.body.length ≤ buffer.maximumBytes + 1
  available : next.reply.available.length < buffer.reply.available.length
  most : next.most = max buffer.most next.body.length

theorem turn_eq (connection : Connection) (h : buffer.Within)
    (havailable : 0 < buffer.reply.bytesAvailable) (hfuel : 0 < fuel) :
    ∃ next, buffer.Turned next ∧ buffer.turn connection (consume connection fuel) =
      some (if buffer.maximumBytes < next.body.length then next.rejected else next) := by
  obtain ⟨count, reply, hone, hcount, hlimit, hdrop, hread⟩ :=
    read_eq connection h havailable
  let next := buffer.append (buffer.reply.available.take count) reply
  have hlength : next.body.length ≤ buffer.maximumBytes + 1 := by
    change (buffer.body ++ buffer.reply.available.take count).length ≤ _
    rw [List.length_append, List.length_take_of_le hcount]
    exact hlimit
  have hrest : next.reply.available.length < buffer.reply.available.length := by
    change reply.available.length < _
    rw [hdrop, List.length_drop]
    omega
  have hreceived : next.received = buffer.received := by
    change buffer.body ++ buffer.reply.available.take count ++ reply.available = _
    rw [hdrop, List.append_assoc, List.take_append_drop, received]
  have hturn (finish : BoundedReply → Option BoundedReply) : buffer.turn connection finish =
      if buffer.maximumBytes < next.body.length then next.reject connection finish
      else some next := by
    unfold turn
    dsimp only
    rw [hread]
    rfl
  refine ⟨next, ⟨rfl, h.exceededLimit, hreceived, hlength, hrest, rfl⟩, ?_⟩
  rw [hturn, reject_eq hfuel]
  split <;> rfl

theorem Turned.rejected {next : BoundedReply} (h : buffer.Turned next)
    (hlong : buffer.maximumBytes < next.body.length) : buffer.Consumed next.rejected := by
  have hle : next.body.length ≤ buffer.received.length := by
    rw [← h.received, BoundedReply.received, List.length_append]
    exact Nat.le_add_right _ _
  refine ⟨h.maximumBytes, ?_, fun hshort => ?_, fun _ => ⟨rfl, rfl⟩⟩
  · have hmost : next.rejected.most = max buffer.most next.body.length := h.most
    have hlength := h.length_le
    omega
  · exact absurd (hlong.trans_le hle) (Nat.not_lt.mpr hshort)

theorem Turned.consumed {next : BoundedReply} (h : buffer.Turned next)
    (hshort : next.body.length ≤ buffer.maximumBytes) (hc : next.Consumed after) :
    buffer.Consumed after := by
  obtain ⟨hmaximum, hmost, hwhole, hempty⟩ := hc
  rw [h.maximumBytes] at hmaximum hmost hwhole hempty
  rw [h.received] at hwhole hempty
  refine ⟨hmaximum, hmost.trans ?_, hwhole, hempty⟩
  rw [h.most]
  omega

theorem consume_consumed (connection : Connection) (h : buffer.Within)
    (hfuel : buffer.reply.available.length < fuel) :
    ∃ after, buffer.consume connection fuel = some after ∧ buffer.Consumed after := by
  induction fuel generalizing buffer with
  | zero => omega
  | succ fuel ih =>
    rw [consume, h.exceededLimit]
    rcases Nat.eq_zero_or_pos buffer.reply.bytesAvailable with hnone | hsome
    · have hempty : buffer.reply.available = [] := List.length_eq_zero_iff.mp hnone
      have hreceived : buffer.received = buffer.body := by
        rw [received, hempty, List.append_nil]
      refine ⟨buffer, by simp [hnone], rfl, le_max_left _ _, fun _ => ?_, fun hlong => ?_⟩
      · exact ⟨h.exceededLimit, hreceived.symm, hempty⟩
      · rw [hreceived] at hlong
        exact absurd h.length_le (Nat.not_le.mpr hlong)
    · have hmore : 0 < fuel := by
        unfold QNetworkReply.bytesAvailable at hsome
        omega
      obtain ⟨next, hnext, hturn⟩ := turn_eq connection h hsome hmore
      rw [if_pos (by simpa using hsome), Option.bind_eq_bind, hturn, Option.bind_some]
      split
      case isTrue hlong =>
        obtain ⟨fuel, rfl⟩ := Nat.exists_eq_succ_of_ne_zero hmore.ne'
        exact ⟨next.rejected, consume_exceeded rfl, hnext.rejected hlong⟩
      case isFalse hlong =>
        have hshort := Nat.not_lt.mp hlong
        have hwithin : next.Within := ⟨hnext.exceededLimit, hnext.maximumBytes ▸ hshort⟩
        obtain ⟨after, hafter, hconsumed⟩ := ih hwithin (by have := hnext.available; omega)
        exact ⟨after, hafter, hnext.consumed hshort hconsumed⟩

end Consume

section Runs

variable {maximumBytes : Nat} {signals : List Signal} {signal : Signal}

@[simp] theorem payload_concat :
    payload (signals ++ [signal]) = payload signals ++ signal.payload := by
  simp [payload]

theorem exceeds_concat (h : Exceeds maximumBytes signals) :
    Exceeds maximumBytes (signals ++ [signal]) := by
  rcases h with hlong | ⟨contentLength, hmem, hlong⟩
  · refine Or.inl (hlong.trans_le ?_)
    rw [payload_concat, List.length_append]
    exact Nat.le_add_right _ _
  · exact Or.inr ⟨contentLength, List.mem_append_left _ hmem, hlong⟩

/-- A buffer after a run: all that has arrived, as long as nothing exceeds the limit, or nothing. -/
structure Collects (maximumBytes : Nat) (signals : List Signal) (buffer : BoundedReply) : Prop where
  limit : buffer.maximumBytes = maximumBytes
  most : buffer.most ≤ maximumBytes + 1
  within : buffer.exceededLimit = false → buffer.body.length ≤ maximumBytes
  received : buffer.exceededLimit = false → buffer.received = payload signals
  declared : buffer.exceededLimit = false →
    ∀ contentLength : Int, .metaDataChanged contentLength ∈ signals → contentLength ≤ maximumBytes
  empty : buffer.exceededLimit = true → buffer.body = []
  exceeds : buffer.exceededLimit = true → Exceeds maximumBytes signals

/-- A signal that brings nothing. -/
theorem Collects.concat (h : Collects maximumBytes signals buffer) (hpayload : signal.payload = [])
    (hlength : ∀ contentLength : Int, signal = .metaDataChanged contentLength →
      contentLength ≤ maximumBytes) :
    Collects maximumBytes (signals ++ [signal]) buffer := by
  refine ⟨h.limit, h.most, h.within, fun hnot => ?_, fun hnot contentLength hmem => ?_,
    h.empty, fun hyes => exceeds_concat (h.exceeds hyes)⟩
  · rw [payload_concat, hpayload, List.append_nil]
    exact h.received hnot
  · rcases List.mem_append.mp hmem with hmem | hmem
    · exact h.declared hnot contentLength hmem
    · exact hlength contentLength (List.mem_singleton.mp hmem).symm

theorem Collects.arrived (h : Collects maximumBytes signals buffer) (chunk : QByteArray) :
    Collects maximumBytes (signals ++ [.arrived chunk])
      { buffer with
        reply := { buffer.reply with available := buffer.reply.available ++ chunk } } := by
  refine ⟨h.limit, h.most, h.within, fun hnot => ?_, fun hnot contentLength hmem => ?_,
    h.empty, fun hyes => exceeds_concat (h.exceeds hyes)⟩
  · rw [payload_concat, ← h.received hnot]
    exact (List.append_assoc _ _ _).symm
  · have hmem : .metaDataChanged contentLength ∈ signals := by simpa using hmem
    exact h.declared hnot contentLength hmem

theorem Collects.rejected {later : List Signal} (h : Collects maximumBytes signals buffer)
    (hexceeds : Exceeds maximumBytes later) : Collects maximumBytes later buffer.rejected :=
  ⟨h.limit, h.most, nofun, nofun, nofun, fun _ => rfl, fun _ => hexceeds⟩

theorem Collects.consume (connection : Connection) (h : Collects maximumBytes signals buffer)
    (hfuel : (payload signals).length < fuel) :
    ∃ after, buffer.consume connection fuel = some after ∧ Collects maximumBytes signals after ∧
      (after.exceededLimit = false → after.reply.available = []) := by
  cases hx : buffer.exceededLimit with
  | true =>
    obtain ⟨fuel, rfl⟩ := Nat.exists_eq_succ_of_ne_zero (Nat.ne_zero_of_lt hfuel)
    exact ⟨buffer, consume_exceeded hx, h, fun hnot => nomatch hx.symm.trans hnot⟩
  | false =>
    have hmaximum := h.limit
    have hreceived := h.received hx
    have hwithin : buffer.Within := ⟨hx, hmaximum ▸ h.within hx⟩
    have havailable : buffer.reply.available.length ≤ (payload signals).length := by
      rw [← hreceived, BoundedReply.received, List.length_append]
      exact Nat.le_add_left _ _
    obtain ⟨after, hafter, hconsumed⟩ :=
      consume_consumed connection hwithin (havailable.trans_lt hfuel)
    have hmost : after.most ≤ maximumBytes + 1 := by
      have hmost := hconsumed.most
      have := h.most
      omega
    refine ⟨after, hafter, ?_⟩
    rcases Nat.lt_or_ge buffer.maximumBytes buffer.received.length with hlong | hshort
    · obtain ⟨hexceeded, hempty⟩ := hconsumed.empty hlong
      rw [hmaximum, hreceived] at hlong
      have hnever (hnot : after.exceededLimit = false) : False := nomatch hexceeded.symm.trans hnot
      exact ⟨⟨hconsumed.maximumBytes.trans hmaximum, hmost, fun hnot => (hnever hnot).elim,
        fun hnot => (hnever hnot).elim, fun hnot => (hnever hnot).elim, fun _ => hempty,
        fun _ => Or.inl hlong⟩, fun hnot => (hnever hnot).elim⟩
    · obtain ⟨hnot, hbody, hnone⟩ := hconsumed.whole hshort
      have hwhole : after.received = payload signals := by
        rw [BoundedReply.received, hbody, hnone, List.append_nil, hreceived]
      have hlength : after.body.length ≤ maximumBytes := by
        rw [hbody, ← hmaximum]
        exact hshort
      have hnever (hyes : after.exceededLimit = true) : False := nomatch hyes.symm.trans hnot
      exact ⟨⟨hconsumed.maximumBytes.trans hmaximum, hmost, fun _ => hlength, fun _ => hwhole,
        fun _ => h.declared hx, fun hyes => (hnever hyes).elim, fun hyes => (hnever hyes).elim⟩,
        fun _ => hnone⟩

theorem Collects.handle (h : Collects maximumBytes signals buffer) (signal : Signal)
    (hfuel : (payload signals).length < fuel) :
    ∃ after, buffer.handle connection fuel signal = some after ∧
      Collects maximumBytes (signals ++ [signal]) after := by
  cases signal with
  | arrived chunk => exact ⟨_, rfl, h.arrived chunk⟩
  | readyRead =>
    obtain ⟨after, hafter, hcollects, -⟩ := h.consume connection hfuel
    exact ⟨after, hafter, hcollects.concat rfl nofun⟩
  | metaDataChanged contentLength =>
    rcases Int.lt_or_le (buffer.maximumBytes : Int) contentLength with hlong | hshort
    · refine ⟨buffer.rejected, ?_, ?_⟩
      · rw [BoundedReply.handle, if_pos hlong, reject_eq (Nat.zero_lt_of_lt hfuel)]
      · rw [h.limit] at hlong
        exact h.rejected (Or.inr ⟨contentLength, by simp, hlong⟩)
    · refine ⟨buffer, ?_, h.concat rfl ?_⟩
      · rw [BoundedReply.handle, if_neg (Int.not_lt.mpr hshort)]
      · rintro _ ⟨⟩
        rwa [h.limit] at hshort
  | finished =>
    obtain ⟨after, hafter, hcollects, -⟩ := h.consume connection hfuel
    exact ⟨after, hafter, hcollects.concat rfl nofun⟩

/-- With as much fuel as bytes arrive, and one more, no handler fails to end. -/
theorem run_collects (connection : Connection) (maximumBytes : Nat)
    (hfuel : (payload signals).length < fuel) :
    ∃ buffer, run (step connection fuel) (some (collect maximumBytes)) signals = some buffer ∧
      Collects maximumBytes signals buffer := by
  induction signals using List.reverseRecOn with
  | nil =>
    exact ⟨collect maximumBytes, rfl, rfl, Nat.zero_le _, fun _ => Nat.zero_le _, fun _ => rfl,
      nofun, nofun, nofun⟩
  | append_singleton signals signal ih =>
    rw [payload_concat, List.length_append] at hfuel
    have hearlier : (payload signals).length < fuel := Nat.lt_of_add_right_lt hfuel
    obtain ⟨buffer, hbuffer, hcollects⟩ := ih hearlier
    rw [run_concat, hbuffer]
    exact hcollects.handle signal hearlier

theorem step_le {more : Nat} {state : Option BoundedReply} (hle : fuel ≤ more)
    (h : step connection fuel state signal = some after) :
    step connection more state signal = some after := by
  obtain ⟨buffer, rfl, hhandle⟩ := Option.bind_eq_some_iff.mp h
  have hconsume (buffer after : BoundedReply)
      (hc : buffer.consume connection fuel = some after) :
      buffer.consume connection more = some after := consume_le hle hc
  change buffer.handle connection more signal = some after
  cases signal with
  | arrived chunk => exact hhandle
  | readyRead => exact hconsume _ _ hhandle
  | metaDataChanged contentLength =>
    rw [BoundedReply.handle] at hhandle ⊢
    split
    case isTrue hlong =>
      rw [if_pos hlong] at hhandle
      exact reject_mono hconsume hhandle
    case isFalse hshort =>
      rw [if_neg hshort] at hhandle
      exact hhandle
  | finished => exact hconsume _ _ hhandle

theorem run_le {more : Nat} {state : Option BoundedReply} (hle : fuel ≤ more)
    (h : run (step connection fuel) state signals = some after) :
    run (step connection more) state signals = some after := by
  induction signals using List.reverseRecOn generalizing after with
  | nil => exact h
  | append_singleton signals signal ih =>
    rw [run_concat] at h ⊢
    obtain ⟨buffer, hbuffer, -⟩ := Option.bind_eq_some_iff.mp h
    rw [hbuffer] at h
    rw [ih hbuffer]
    exact step_le hle h

/-- What has been rejected stays so. -/
def Rejected (state : Option BoundedReply) : Prop :=
  ∃ buffer, state = some buffer ∧ buffer.exceededLimit = true ∧ buffer.body = []

theorem Rejected.step {state : Option BoundedReply} (h : Rejected state) (signal : Signal) :
    Rejected (step connection (fuel + 1) state signal) := by
  obtain ⟨buffer, rfl, hexceeded, hempty⟩ := h
  cases signal with
  | arrived chunk => exact ⟨_, rfl, hexceeded, hempty⟩
  | readyRead => exact ⟨buffer, consume_exceeded hexceeded, hexceeded, hempty⟩
  | metaDataChanged contentLength =>
    change Rejected (if _ then _ else _)
    split
    · exact ⟨buffer.rejected, reject_eq (Nat.succ_pos fuel), rfl, rfl⟩
    · exact ⟨buffer, rfl, hexceeded, hempty⟩
  | finished => exact ⟨buffer, consume_exceeded hexceeded, hexceeded, hempty⟩

/-- After `finish` the body is the payload if nothing exceeds the limit, and empty for good if
something does; every handler ends, and the body has never held more than a byte too many. -/
theorem collects_payload (connection : Connection) (maximumBytes : Nat) (signals : List Signal) :
    ∃ buffer,
      (∀ fuel, (payload signals).length < fuel →
        run (step connection fuel) (some (collect maximumBytes)) (signals ++ [.finished]) =
          some buffer) ∧
      buffer.most ≤ maximumBytes + 1 ∧
      (¬ Exceeds maximumBytes signals →
        buffer.body = payload signals ∧ buffer.exceededLimit = false) ∧
      (Exceeds maximumBytes signals → ∀ fuel later, Rejected
        (run (step connection (fuel + 1)) (some buffer) later)) := by
  obtain ⟨buffer, hbuffer, hcollects⟩ :=
    run_collects connection maximumBytes (Nat.lt_succ_self (payload signals).length)
  obtain ⟨after, hafter, hfinished, hnone⟩ :=
    hcollects.consume connection (Nat.lt_succ_self (payload signals).length)
  have hwhole (hnot : after.exceededLimit = false) : after.body = payload signals := by
    rw [← hfinished.received hnot, received, hnone hnot, List.append_nil]
  refine ⟨after, fun fuel hfuel => ?_, hfinished.most, fun hfits => ?_, fun hexceeds => ?_⟩
  · refine run_le (Nat.succ_le_of_lt hfuel) ?_
    rw [run_concat, hbuffer]
    exact hafter
  · have hnot : after.exceededLimit = false :=
      Bool.eq_false_iff.mpr fun hyes => hfits (hfinished.exceeds hyes)
    exact ⟨hwhole hnot, hnot⟩
  · have hyes : after.exceededLimit = true := by
      by_contra hnot
      have hnot := Bool.eq_false_iff.mpr hnot
      rcases hexceeds with hlong | ⟨contentLength, hmem, hlong⟩
      · rw [← hwhole hnot] at hlong
        exact absurd (hfinished.within hnot) (Nat.not_le.mpr hlong)
      · exact absurd (hfinished.declared hnot contentLength hmem) (Int.not_le.mpr hlong)
    have hrejected : Rejected (some after) := ⟨after, rfl, hyes, hfinished.empty hyes⟩
    exact fun fuel later => run_invariant hrejected fun state signal _ h => h.step signal

end Runs

end BoundedReply

end RpiDashboard.Network
