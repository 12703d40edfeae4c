import RpiDashboard.Daemon.ExchangeLaws
import RpiDashboard.Daemon.RunLaws
import RpiDashboard.Telemetry.Deployment

/-! What the daemons of a deployment do: each of them runs the loop of `run`, and numbers its
snapshots in the order in which it sends them. -/

namespace RpiDashboard.Telemetry

open Qt Protocol

namespace Process

variable {p : Process} {s : Daemon.Loop} {reply : Option (List UInt8)} {m : Option Daemon.Value}

theorem step_unresolved : p.step s .unresolved = s := by
  cases h : s.exit <;> simp [step, Daemon.Loop.step, Daemon.Loop.pass, h]

theorem step_noSocket : p.step s .noSocket = s := by
  cases h : s.exit <;> simp [step, Daemon.Loop.step, Daemon.Loop.pass, h]

theorem exit_step (hs : s.exit = none) (x : Daemon.Pass) : (p.step s x).exit = none := by
  cases x with
  | unresolved => rwa [step_unresolved]
  | noSocket => rwa [step_noSocket]
  | exchange reply m =>
    cases hr : Daemon.readsAccepted (Daemon.recv reply) <;>
      simp [step, Daemon.Loop.step, Daemon.Loop.pass, hs, hr]

theorem seq_exchange (hs : s.exit = none) : (p.step s (.exchange reply m)).seq =
    if Daemon.readsAccepted (Daemon.recv reply) then s.seq + 1 else s.seq := by
  cases hr : Daemon.readsAccepted (Daemon.recv reply) <;>
    simp [step, Daemon.Loop.step, Daemon.Loop.pass, hs, hr]

theorem output_exchange (hs : s.exit = none) : p.output s (.exchange reply m) =
    .hello (Daemon.hello p.settings p.deviceId p.instanceId p.info) ::
      if Daemon.readsAccepted (Daemon.recv reply) then
        [.snapshot (Daemon.snapshot p.settings p.deviceId p.instanceId s.seq p.info m),
          .sleepFor p.settings.intervalSeconds]
      else [.sleepFor 10] := by
  cases hr : Daemon.readsAccepted (Daemon.recv reply) <;>
    simp [output, Daemon.Loop.output, Daemon.Loop.pass, hs, hr]

theorem intervalSeconds_settings : p.settings.intervalSeconds = p.config.intervalSeconds := by
  rw [settings, Daemon.Config.withDisplayName]
  split <;> rfl

theorem interval_settings : IntervalWithin p.settings.intervalSeconds := by
  rw [intervalSeconds_settings]
  exact p.interval

def hello (p : Process) : Hello := Daemon.helloOf p.settings p.deviceId p.instanceId p.info

def snapshot (p : Process) (seq : UInt64) (m : Option Measured) : DeviceSnapshot :=
  Daemon.snapshotOf p.settings p.deviceId p.instanceId seq p.info (m.map Subtype.val)

def states (p : Process) : Message → TelemetryMessage
  | .hello => .hello p.hello
  | .snapshot seq m => .snapshot (p.snapshot seq m)

/-- The dashboard takes what a daemon states if it is valid and fits a datagram. -/
theorem message_data {qt : QtCbor} (hqt : qt.Rfc8949) {message : Message}
    (hseq : ∀ seq m, message = .snapshot seq m → InRange seq) {decoded : TelemetryMessage} :
    (decodeMessage qt (p.data message)).message = some decoded ↔
      decoded = p.states message ∧ (p.states message).Valid ∧
        (p.data message).length ≤ maximumDatagramSize := by
  cases message with
  | hello =>
    obtain ⟨name, hname⟩ := p.name
    exact Daemon.message_hello_iff hqt p.shape hname p.interval_settings
  | snapshot seq m =>
    have hm : ∀ metrics ∈ m.map Subtype.val, Daemon.IsMetrics metrics := by
      intro metrics hmem
      obtain ⟨measured, -, rfl⟩ := Option.map_eq_some_iff.mp hmem
      exact measured.property
    exact Daemon.message_snapshot_iff hqt p.shape hm p.interval_settings (hseq seq m rfl)

end Process

/-- What is read of a datagram that is not too long is all of it. -/
theorem data_truncate {datagram : QNetworkDatagram}
    (h : ¬ (datagram.truncate (maximumDatagramSize + 1)).data.length > maximumDatagramSize) :
    (datagram.truncate (maximumDatagramSize + 1)).data = datagram.data := by
  simp only [QNetworkDatagram.truncate, List.length_take] at h ⊢
  exact List.take_of_length_le (by omega)

def Message.isSnapshot : Message → Bool
  | .hello => false
  | .snapshot _ _ => true

/-- The datagram of an output, if it is one. -/
def datagram? : Daemon.Output → Option QByteArray
  | .hello bytes => some bytes
  | .snapshot bytes => some bytes
  | .sleepFor _ => none

namespace Deployment

variable {ι : Type} [DecidableEq ι] {qt : QtCbor} {daemons : ι → Process} {s : Deployment ι}
  {a : Action ι} {k : ι} {source : Endpoint}

/-- What daemon `k` has sent. -/
def sentBy (daemons : ι → Process) (k : ι) (s : Deployment ι) : List QByteArray :=
  (s.wire.filter fun p => p.sender = k).map fun p => (daemons k).data p.message

/-- The hello of a pass that is not over. -/
def pending (daemons : ι → Process) (k : ι) (s : Deployment ι) : List QByteArray :=
  (s.sockets k).toList.map fun _ => (daemons k).data .hello

theorem loops_run (k : ι) (s : Deployment ι) (as : List (Action ι)) :
    (run (step qt daemons) s as).loops k =
      run (daemons k).step (s.loops k) (emitted (step qt daemons) (passes k) s as) := by
  induction as generalizing s with
  | nil => rfl
  | cons a as ih =>
    rw [run_cons, ih, emitted, run_append]
    rfl

theorem exit_passes (h : (s.loops k).exit = none) :
    ((step qt daemons s a).loops k).exit = none :=
  run_invariant (P := fun l : Daemon.Loop => l.exit = none) h fun _ x _ hs => Process.exit_step hs x

theorem exit_run {as : List (Action ι)} (h : (s.loops k).exit = none) :
    ((run (step qt daemons) s as).loops k).exit = none :=
  run_invariant (P := fun s : Deployment ι => (s.loops k).exit = none) h fun _ _ _ => exit_passes

theorem sentBy_step : sentBy daemons k (step qt daemons s a) =
    sentBy daemons k s ++
      ((s.sent a).filter fun p => p.sender = k).map fun p => (daemons k).data p.message := by
  rw [sentBy, sentBy, step, List.filter_append, List.map_append]

/-- An action completes the passes of a daemon exactly as the daemon's loop makes them. -/
theorem sent_step (hs : (s.loops k).exit = none) :
    pending daemons k s ++
        (((s.sent a).filter fun p => p.sender = k).map fun p => (daemons k).data p.message) =
      (emitted (daemons k).step (daemons k).output (s.loops k) (s.passes k a)).filterMap datagram? ++
        pending daemons k (step qt daemons s a) := by
  cases a with
  | unresolved j =>
    simp only [passes, sent, step, socketsAfter, pending]
    split
    · simp [emitted, Process.output, Daemon.Loop.output, Daemon.Loop.pass, hs, datagram?]
    · simp [emitted]
  | noSocket j =>
    simp only [passes, sent, step, socketsAfter, pending]
    split
    · simp [emitted, Process.output, Daemon.Loop.output, Daemon.Loop.pass, hs, datagram?]
    · simp [emitted]
  | send j source =>
    simp only [passes, sent, step, socketsAfter, pending, emitted, List.filterMap_nil,
      List.nil_append]
    by_cases hj : j = k
    · subst hj
      cases hsocket : s.sockets j <;> simp [hsocket]
    · split <;> simp [Ne.symm hj, hj]
  | receive j answer m =>
    simp only [passes, sent, step, socketsAfter, pending]
    by_cases hj : j = k
    · subst hj
      cases hsocket : s.sockets j with
      | none => simp [emitted]
      | some source =>
        simp only [if_true, Option.toList_some, List.map_cons, List.map_nil, emitted,
          List.append_nil, exchange, Process.output_exchange hs, Function.update_self]
        split <;> simp [datagram?, Process.data]
    · rw [if_neg hj, Function.update_of_ne (Ne.symm hj)]
      cases hsocket : s.sockets j with
      | none => simp [emitted]
      | some source =>
        dsimp only
        split <;> simp [emitted, hj]
  | _ => simp [passes, sent, step, socketsAfter, pending, emitted]

/-- Whatever the others do, a daemon of a deployment sends what its loop puts out. -/
theorem sentBy_run (hs : (s.loops k).exit = none) {before : List QByteArray}
    (h : sentBy daemons k s = before ++ pending daemons k s) (as : List (Action ι)) :
    sentBy daemons k (run (step qt daemons) s as) =
      before ++ (emitted (daemons k).step (daemons k).output (s.loops k)
        (emitted (step qt daemons) (passes k) s as)).filterMap datagram? ++
      pending daemons k (run (step qt daemons) s as) := by
  induction as generalizing s before with
  | nil => simpa [emitted] using h
  | cons a as ih =>
    have hstep : sentBy daemons k (step qt daemons s a) =
        (before ++ (emitted (daemons k).step (daemons k).output (s.loops k)
          (s.passes k a)).filterMap datagram?) ++ pending daemons k (step qt daemons s a) := by
      rw [sentBy_step, h, List.append_assoc, sent_step hs, List.append_assoc]
    rw [run_cons, ih (exit_passes hs) hstep, emitted, emitted_append, List.filterMap_append,
      List.append_assoc before]
    rfl

/-- Each daemon of a deployment, whatever the others and the network do, is `run` on the passes
that it completes there: it is in the same state, and has sent what `run` puts out, apart from the
hello of a pass that is not over. -/
theorem daemon_of_deployment (qt : QtCbor) (daemons : ι → Process) (storage : StorageFile)
    (as : List (Action ι)) (k : ι) :
    let s := run (step qt daemons) (start qt storage) as
    let ps := emitted (step qt daemons) (passes k) (start qt storage) as
    let p := daemons k
    let daemon := Daemon.run p.config p.hostname p.deviceId p.instanceId p.info false ps
    s.loops k = daemon.1 ∧
      sentBy daemons k s = daemon.2.filterMap datagram? ++ pending daemons k s :=
  ⟨loops_run k _ as, sentBy_run rfl
    (show sentBy daemons k (start qt storage) = [] ++ pending daemons k (start qt storage) from rfl)
    as⟩

/-- The sequence numbers after an action. -/
theorem seq_step (hs : ∀ j, (s.loops j).exit = none) (j : ι) :
    ((step qt daemons s a).loops j).seq = (s.loops j).seq + UInt64.ofNat
      ((s.sent a).countP fun p => p.sender = j && p.message.isSnapshot) := by
  cases a with
  | unresolved i =>
    simp only [step, passes, sent]
    split <;> simp [Process.step_unresolved]
  | noSocket i =>
    simp only [step, passes, sent]
    split <;> simp [Process.step_noSocket]
  | send i source =>
    simp only [step, passes, sent, run_nil]
    split <;> simp [Message.isSnapshot]
  | receive i answer m =>
    simp only [step, passes, sent]
    by_cases hj : i = j
    · subst hj
      cases hsocket : s.sockets i with
      | none => simp
      | some source =>
        simp only [if_true, Option.toList_some, List.map_cons, List.map_nil, run_cons, run_nil,
          exchange, Process.seq_exchange (hs i)]
        split <;> simp [Message.isSnapshot]
    · rw [if_neg hj]
      cases hsocket : s.sockets i with
      | none => simp
      | some source =>
        dsimp only
        split <;> simp [hj]
  | _ => simp [step, passes, sent]

omit [DecidableEq ι] in
/-- What an action can put on the wire: nothing, a hello, or the daemon's next snapshot once it
reads an answer as accepted. -/
theorem sent_cases (s : Deployment ι) (a : Action ι) :
    s.sent a = [] ∨
      (∃ k source, a = .send k source ∧ s.sockets k = none ∧ s.sent a = [⟨k, source, .hello⟩]) ∨
      ∃ k source answer m, a = .receive k answer m ∧ s.sockets k = some source ∧
        Daemon.readsAccepted (Daemon.recv (answer.bind (s.reply source))) = true ∧
        s.sent a = [⟨k, source, .snapshot (s.loops k).seq m⟩] := by
  cases a with
  | send k source =>
    by_cases h : s.sockets k = none
    · exact .inr (.inl ⟨k, source, rfl, h, if_pos h⟩)
    · exact .inl (if_neg h)
  | receive k answer m =>
    cases h : s.sockets k with
    | none => simp [sent, h]
    | some source =>
      by_cases hr : Daemon.readsAccepted (Daemon.recv (answer.bind (s.reply source))) = true
      · exact .inr (.inr ⟨k, source, answer, m, rfl, h, hr, by simp [sent, h, hr]⟩)
      · exact .inl (by simp [sent, h, hr])
  | _ => exact .inl rfl

end Deployment

/-- Of two snapshots of one daemon, the first has the smaller number. -/
def Packet.Before {ι : Type} (p q : Packet ι) : Prop :=
  p.sender = q.sender → ∀ i m j m', p.message = .snapshot i m → q.message = .snapshot j m' → i < j

/-- The snapshots on the wire are numbered; `n` bounds the numbers given so far. -/
structure Deployment.Numbered {ι : Type} (n : Nat) (s : Deployment ι) : Prop where
  exit : ∀ k, (s.loops k).exit = none
  seq_le : ∀ k, (s.loops k).seq.toNat ≤ n
  sent : ∀ p ∈ s.wire, ∀ seq m, p.message = .snapshot seq m → seq < (s.loops p.sender).seq
  ordered : s.wire.Pairwise Packet.Before

namespace Deployment

variable {ι : Type} [DecidableEq ι] {qt : QtCbor} {daemons : ι → Process} {s : Deployment ι}
  {a : Action ι} {n : Nat}

omit [DecidableEq ι] in
theorem numbered_start (storage : StorageFile) : (start qt storage : Deployment ι).Numbered 0 := by
  constructor <;> simp [start]

theorem Numbered.seq_step (h : s.Numbered n) (hn : n + 1 < 2 ^ 63) (j : ι) :
    (s.loops j).seq ≤ ((Deployment.step qt daemons s a).loops j).seq ∧
      ((Deployment.step qt daemons s a).loops j).seq.toNat ≤ n + 1 := by
  have hcount : (s.sent a).countP (fun p => p.sender = j && p.message.isSnapshot) ≤ 1 := by
    refine List.countP_le_length.trans ?_
    rcases sent_cases s a with hsent | ⟨k, source, -, -, hsent⟩ |
        ⟨k, source, answer, m, -, -, -, hsent⟩ <;>
      simp [hsent]
  have hle := h.seq_le j
  rw [Deployment.seq_step h.exit, UInt64.le_iff_toNat_le, UInt64.toNat_add, UInt64.toNat_ofNat']
  omega

/-- A new snapshot has the number that its daemon would give next, and uses it up. -/
theorem Numbered.seq_of_mem_sent (qt : QtCbor) (daemons : ι → Process) (h : s.Numbered n)
    (hn : n + 1 < 2 ^ 63) {p : Packet ι} (hp : p ∈ s.sent a) {i : UInt64} {m : Option Measured}
    (hm : p.message = .snapshot i m) :
    i = (s.loops p.sender).seq ∧ i < ((Deployment.step qt daemons s a).loops p.sender).seq := by
  rcases sent_cases s a with hsent | ⟨k, source, -, -, hsent⟩ |
    ⟨k, source, answer, m', -, -, -, hsent⟩
  · simp [hsent] at hp
  · rw [hsent, List.mem_singleton] at hp
    subst hp
    cases hm
  · rw [hsent, List.mem_singleton] at hp
    subst hp
    cases hm
    have hle : (s.loops k).seq.toNat ≤ n := h.seq_le k
    refine ⟨rfl, ?_⟩
    rw [Deployment.seq_step h.exit, hsent, UInt64.lt_iff_toNat_lt, UInt64.toNat_add]
    simp only [Message.isSnapshot, List.countP_singleton, decide_true, Bool.and_self, if_true]
    rw [UInt64.toNat_ofNat']
    omega

theorem Numbered.step (h : s.Numbered n) (hn : n + 1 < 2 ^ 63) :
    (Deployment.step qt daemons s a).Numbered (n + 1) where
  exit k := exit_passes (h.exit k)
  seq_le k := (h.seq_step hn k).2
  sent p hp seq m hm := by
    rcases List.mem_append.mp hp with hp | hp
    · exact UInt64.lt_of_lt_of_le (h.sent p hp seq m hm) (h.seq_step hn p.sender).1
    · exact (h.seq_of_mem_sent qt daemons hn hp hm).2
  ordered := by
    refine List.pairwise_append.mpr ⟨h.ordered, ?_, fun p hp q hq hsender i m j m' hi hj => ?_⟩
    · rcases sent_cases s a with hsent | ⟨k, source, -, -, hsent⟩ |
          ⟨k, source, answer, m, -, -, -, hsent⟩ <;>
        simp [hsent]
    · rw [(h.seq_of_mem_sent qt daemons hn hq hj).1, ← hsender]
      exact h.sent p hp i m hi

/-- The numbers hold out as long as a run is shorter than their range. -/
theorem numbered_run (storage : StorageFile) {as : List (Action ι)} (h : as.length < 2 ^ 63) :
    (run (Deployment.step qt daemons) (start qt storage) as).Numbered as.length := by
  refine run_history (P := fun as (s : Deployment ι) => as.length < 2 ^ 63 → s.Numbered as.length)
    (fun _ => numbered_start storage) (fun as a ih hlen => ?_) as h
  rw [List.length_append, List.length_singleton] at hlen ⊢
  exact (ih (Nat.lt_of_succ_lt hlen)).step hlen

end Deployment

end RpiDashboard.Telemetry
