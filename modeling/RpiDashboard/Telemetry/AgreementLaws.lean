import RpiDashboard.Telemetry.ProvenanceLaws

/-! A daemon sends a snapshot only from a socket whose hello the dashboard has accepted. -/

namespace RpiDashboard.Telemetry

open Qt Protocol RemoteDeviceRegistry UdpTelemetryReceiver

section Loop

variable {qt : QtCbor} {P : UdpTelemetryReceiver → Prop}

/-- What the loop's body keeps is kept by the loop, for what was queued. -/
theorem processLoop_invariant {Q : Option QNetworkDatagram → Prop}
    (hpop : ∀ u socket, P u → P { u with socket := socket })
    (hbody : ∀ u received call, Q received → P u →
      P (process qt u (received.map (·.truncate (maximumDatagramSize + 1))) call))
    (calls : Nat → Call) (n : Nat) {u : UdpTelemetryReceiver} (hu : P u)
    (hq : ∀ received ∈ u.socket, Q received) : P (processLoop qt calls n u) := by
  induction n generalizing u with
  | zero => exact hu
  | succ n ih =>
    rw [processLoop]
    split
    · exact hu
    · next received socket h =>
      rw [h, List.forall_mem_cons] at hq
      refine ih (hbody _ received _ hq.1 (hpop u socket hu)) ?_
      rw [socket_process]
      exact hq.2

end Loop

def reasons : List QString := ["", "duplicate_device_id", "registry_full"]

/-- Every answer of the dashboard is one to a hello, and goes where the hello came from. -/
def AnswersHellos {ι : Type} (qt : QtCbor) (daemons : ι → Process) (wire : List (Packet ι))
    (u : UdpTelemetryReceiver) : Prop :=
  ∀ r ∈ u.sent, ∃ k, ⟨k, r.2, .hello⟩ ∈ wire ∧
    ∃ reason ∈ reasons, r.1 = Daemon.replyOf qt (answer (daemons k).hello reason)

section Answers

variable {ι : Type} {qt : QtCbor} {daemons : ι → Process} {wire : List (Packet ι)}
  {u : UdpTelemetryReceiver}

theorem AnswersHellos.process (hqt : qt.Rfc8949) (hrange : SequencesInRange wire)
    (h : AnswersHellos qt daemons wire u) {p : Packet ι} (hp : p ∈ wire) (call : Call) :
    AnswersHellos qt daemons wire (UdpTelemetryReceiver.process qt u
      (some ((p.datagram daemons).truncate (maximumDatagramSize + 1))) call) := by
  simp only [UdpTelemetryReceiver.process]
  split
  · exact h
  · next hs =>
    rw [data_truncate hs]
    split
    · next hello hmessage =>
      have hstates := message_of_datagram hqt hrange hp hmessage
      obtain ⟨k, source, message⟩ := p
      cases message with
      | hello =>
        cases hstates
        refine List.forall_mem_append.mpr ⟨h, List.forall_mem_singleton.mpr ⟨k, hp, _, ?_, rfl⟩⟩
        exact Daemon.registerHello_reason qt u.registry (daemons k).hello source (clocked call)
      | snapshot seq m => cases hstates
    · next snapshot hmessage =>
      rw [processSnapshot]
      split <;> exact h
    · exact h

theorem AnswersHellos.step (hqt : qt.Rfc8949) (hrange : SequencesInRange wire)
    (h : AnswersHellos qt daemons wire u) (ht : u.Traced daemons wire)
    (input : UdpTelemetryReceiver.Input) :
    AnswersHellos qt daemons wire (UdpTelemetryReceiver.step qt u input) := by
  cases input with
  | readyRead calls =>
    refine processLoop_invariant (Q := fun received => ∀ datagram ∈ received,
      ∃ p ∈ wire, datagram = p.datagram daemons) (fun _ _ h => h) ?_ calls batchSize h ?_
    · intro u received call hq hu
      cases received with
      | none => exact hu
      | some datagram =>
        obtain ⟨p, hp, rfl⟩ := hq datagram rfl
        exact hu.process hqt hrange hp call
    · rintro received hm datagram rfl
      exact ht.queued datagram hm
  | _ => exact h

theorem mem_sent_process {r : QByteArray × Endpoint} (h : r ∈ u.sent)
    (received : Option QNetworkDatagram) (call : Call) :
    r ∈ (UdpTelemetryReceiver.process qt u received call).sent := by
  cases received with
  | none => exact h
  | some datagram =>
    simp only [UdpTelemetryReceiver.process]
    split
    · exact h
    · split
      · exact List.mem_append_left _ h
      · rw [processSnapshot]
        split <;> exact h
      · exact h

/-- An answer that was sent stays sent. -/
theorem mem_sent_step {r : QByteArray × Endpoint} (h : r ∈ u.sent)
    (input : UdpTelemetryReceiver.Input) : r ∈ (UdpTelemetryReceiver.step qt u input).sent := by
  cases input with
  | readyRead calls =>
    exact processLoop_invariant (P := fun u => r ∈ u.sent) (Q := fun _ => True)
      (fun _ _ h => h) (fun u received call _ h => mem_sent_process h _ call) calls batchSize h
      (fun _ _ => trivial)
  | _ => exact h

theorem length_replyOf_le (hqt : qt.Rfc8949) (hello : Hello) {reason : QString}
    (hr : reason ∈ reasons) : (Daemon.replyOf qt (answer hello reason)).length ≤ 2048 := by
  have hsize : ∀ reason ∈ reasons,
      101 + (if reason = "" then 0 else 7 + textSize reason) ≤ 2048 := by
    decide +kernel
  rw [Daemon.length_replyOf hqt, answer]
  exact hsize reason hr

/-- The byte of `true` is in no identifier of the daemon, as it looks for it in an answer. -/
def Process.Legible (p : Process) : Prop := 0xf5 ∉ p.deviceId.toList ∧ 0xf5 ∉ p.instanceId.toList
  deriving Decidable

/-- An answer that is read as accepted accepts. -/
theorem reason_of_readsAccepted (hqt : qt.Rfc8949) {p : Process} (hp : p.Legible)
    {reason : QString} (hr : reason ∈ reasons)
    (h : Daemon.readsAccepted
      (Daemon.recv (some (Daemon.replyOf qt (answer p.hello reason)))) = true) :
    reason = "" := by
  have hlen := length_replyOf_le hqt p.hello hr
  rw [Daemon.readsAccepted_recv hlen, Daemon.mem_replyOf hqt hlen] at h
  have hreasons : ∀ reason ∈ reasons, (toUtf8 reason).length % 256 ≠ 245 := by decide +kernel
  have hlegible : Daemon.Legible (answer p.hello reason) := ⟨hp.1, hp.2, hreasons reason hr⟩
  have haccepted : (answer p.hello reason).accepted = true := by simpa [hlegible] using h
  simpa [answer] using haccepted

end Answers

/-- The daemons and the dashboard agree on who is registered: a daemon that sent a snapshot was
told so, at that socket. -/
structure Deployment.Agreed {ι : Type} (qt : QtCbor) (daemons : ι → Process) (s : Deployment ι) :
    Prop where
  answers : AnswersHellos qt daemons s.wire s.receiver
  opened : ∀ k source, s.sockets k = some source → ⟨k, source, .hello⟩ ∈ s.wire
  accepted : ∀ p ∈ s.wire, p.message.isSnapshot = true →
    ⟨p.sender, p.source, .hello⟩ ∈ s.wire ∧ ∃ k, ⟨k, p.source, .hello⟩ ∈ s.wire ∧
      (Daemon.replyOf qt (answer (daemons k).hello ""), p.source) ∈ s.receiver.sent

section Runs

variable {ι : Type} [DecidableEq ι] {qt : QtCbor} {daemons : ι → Process} {s : Deployment ι}
  {a : Action ι}

omit [DecidableEq ι] in
theorem mem_sent_receiverAfter {r : QByteArray × Endpoint} (h : r ∈ s.receiver.sent)
    (a : Action ι) : r ∈ (s.receiverAfter qt daemons a).sent := by
  have hinputs : r ∈ (run (UdpTelemetryReceiver.step qt) s.receiver (s.inputs daemons a)).sent :=
    run_invariant (P := fun u : UdpTelemetryReceiver => r ∈ u.sent) h
      fun _ input _ h => mem_sent_step h input
  cases a with
  | restart => exact h
  | _ => exact hinputs

omit [DecidableEq ι] in
theorem AnswersHellos.receiverAfter (hqt : qt.Rfc8949)
    (hinst : ∀ j k, (daemons j).instanceId = (daemons k).instanceId → j = k)
    (hrange : SequencesInRange s.wire) (ht : s.receiver.Traced daemons s.wire)
    (h : AnswersHellos qt daemons s.wire s.receiver) (a : Action ι) :
    AnswersHellos qt daemons s.wire (s.receiverAfter qt daemons a) := by
  have hinputs : (run (UdpTelemetryReceiver.step qt) s.receiver (s.inputs daemons a)).Traced daemons
      s.wire ∧ AnswersHellos qt daemons s.wire
        (run (UdpTelemetryReceiver.step qt) s.receiver (s.inputs daemons a)) := by
    refine run_invariant (P := fun u => u.Traced daemons s.wire ∧ AnswersHellos qt daemons s.wire u)
      ⟨ht, h⟩ fun u input hm hu => ⟨hu.1.step hqt hinst hrange ?_, hu.2.step hqt hrange hu.1 input⟩
    rintro datagram rfl
    exact arrival_of_mem_inputs hm
  cases a with
  | restart => exact h
  | _ => exact hinputs.2

omit [DecidableEq ι] in
theorem AnswersHellos.mono {wire : List (Packet ι)} {u : UdpTelemetryReceiver}
    (h : AnswersHellos qt daemons wire u) (more : List (Packet ι)) :
    AnswersHellos qt daemons (wire ++ more) u := fun r hr =>
  have ⟨k, hk, hreason⟩ := h r hr
  ⟨k, List.mem_append_left _ hk, hreason⟩

omit [DecidableEq ι] in
/-- A daemon that reads an answer as accepted was accepted. -/
theorem Deployment.Agreed.accepted_of_reply (hqt : qt.Rfc8949) (hlegible : ∀ k, (daemons k).Legible)
    (h : s.Agreed qt daemons) {source : Endpoint} {reply : Option Nat}
    (hr : Daemon.readsAccepted (Daemon.recv (reply.bind (s.reply source))) = true) :
    ∃ k, ⟨k, source, .hello⟩ ∈ s.wire ∧
      (Daemon.replyOf qt (answer (daemons k).hello ""), source) ∈ s.receiver.sent := by
  cases hb : reply.bind (s.reply source) with
  | none => simp [hb] at hr
  | some bytes =>
    obtain ⟨n, -, hn⟩ := Option.bind_eq_some_iff.mp hb
    obtain ⟨sent, hsent, hif⟩ := Option.bind_eq_some_iff.mp hn
    split at hif
    · next hsource =>
      cases hif
      have hmem := List.mem_of_getElem? hsent
      obtain ⟨k, hk, reason, hreason, hreply⟩ := h.answers sent hmem
      rw [hb, hreply] at hr
      obtain rfl := reason_of_readsAccepted hqt (hlegible k) hreason hr
      subst hsource
      exact ⟨k, hk, hreply ▸ hmem⟩
    · cases hif

theorem Deployment.Agreed.step (hqt : qt.Rfc8949)
    (hinst : ∀ j k, (daemons j).instanceId = (daemons k).instanceId → j = k)
    (hlegible : ∀ k, (daemons k).Legible) (hrange : SequencesInRange s.wire)
    (ht : s.receiver.Traced daemons s.wire) (h : s.Agreed qt daemons) :
    (s.step qt daemons a).Agreed qt daemons where
  answers := (h.answers.receiverAfter hqt hinst hrange ht a).mono _
  opened k source hk := by
    cases a with
    | send j source' =>
      simp only [Deployment.step, Deployment.socketsAfter, Deployment.sent] at hk ⊢
      split at hk
      · next hj =>
        rw [if_pos hj]
        by_cases hkj : k = j
        · subst hkj
          rw [Function.update_self] at hk
          cases hk
          simp
        · rw [Function.update_of_ne hkj] at hk
          exact List.mem_append_left _ (h.opened k source hk)
      · exact List.mem_append_left _ (h.opened k source hk)
    | receive j answer m =>
      by_cases hkj : k = j
      · subst hkj
        simp [Deployment.step, Deployment.socketsAfter] at hk
      · simp only [Deployment.step, Deployment.socketsAfter, Function.update_of_ne hkj] at hk
        exact List.mem_append_left _ (h.opened k source hk)
    | _ => exact List.mem_append_left _ (h.opened k source hk)
  accepted p hp hsnapshot := by
    rcases List.mem_append.mp hp with hp | hp
    · obtain ⟨hello, k, hk, hsent⟩ := h.accepted p hp hsnapshot
      exact ⟨List.mem_append_left _ hello, k, List.mem_append_left _ hk,
        mem_sent_receiverAfter hsent a⟩
    · rcases Deployment.sent_cases s a with hsent | ⟨j, source, -, -, hsent⟩ |
        ⟨j, source, answer, m, -, hopen, hread, hsent⟩
      · simp [hsent] at hp
      · rw [hsent, List.mem_singleton] at hp
        subst hp
        cases hsnapshot
      · rw [hsent, List.mem_singleton] at hp
        subst hp
        obtain ⟨k, hk, hanswer⟩ := h.accepted_of_reply hqt hlegible hread
        exact ⟨List.mem_append_left _ (h.opened j source hopen), k, List.mem_append_left _ hk,
          mem_sent_receiverAfter hanswer a⟩

end Runs

end RpiDashboard.Telemetry
