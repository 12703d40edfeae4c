import Mathlib.Algebra.Order.BigOperators.Group.List
import Mathlib.Algebra.Order.Ring.Nat
import RpiDashboard.Daemon.TextLaws

/-! Laws of the runtime of the processor for graphics: when the sum over the queues is exact. -/

namespace RpiDashboard.Daemon

section Queues

/-- The queues in a file, each with its timestamp and its runtime. -/
def queuesOf (contents : StdString) : List (UInt64 × UInt64) :=
  (getlines contents).filterMap gpuQueue

/-- A queue is left out if its timestamp is another, or if the guard takes the sum for too large. -/
def skips (found : Option (UInt64 × UInt64)) (queue : UInt64 × UInt64) : Bool :=
  found.any (·.1 ≠ queue.1) || kWireMaximum - queue.2 < (found.map Prod.snd).getD 0

def sumQueue (found : Option (UInt64 × UInt64)) (queue : UInt64 × UInt64) :
    Option (UInt64 × UInt64) :=
  if skips found queue then found else some (queue.1, (found.map Prod.snd).getD 0 + queue.2)

/-- The queues that a loop adds up. -/
def accepted (found : Option (UInt64 × UInt64)) :
    List (UInt64 × UInt64) → List (UInt64 × UInt64)
  | [] => []
  | queue :: queues =>
    if skips found queue then accepted found queues
    else queue :: accepted (sumQueue found queue) queues

/-- The unbounded sum of their runtimes. -/
def runtimeOf (queues : List (UInt64 × UInt64)) : Nat := (queues.map fun queue => queue.2.toNat).sum

/-- What is returned is the sum of what was accepted, all of it of one timestamp. -/
def GpuExact (contents : StdString) : Prop :=
  ∀ timestamp runtime, gpuStats contents = some (timestamp, runtime) →
    runtime.toNat = runtimeOf (accepted none (queuesOf contents)) ∧
      runtime.toNat ≤ 2 ^ 63 - 1 ∧
      ∀ queue ∈ accepted none (queuesOf contents), queue.1 = timestamp

end Queues

variable {contents : StdString} {found : Option (UInt64 × UInt64)} {queue : UInt64 × UInt64}
  {queues : List (UInt64 × UInt64)} {timestamp total runtime : UInt64}

theorem addQueue_eq (line : StdString) :
    addQueue found line = (gpuQueue line).elim found (sumQueue found) := by
  rw [addQueue]
  cases gpuQueue line <;> rfl

theorem gpuStats_eq : gpuStats contents =
    ((queuesOf contents).foldl sumQueue none).filter fun (timestamp, _) => 0 < timestamp := by
  have hfold (lines : List StdString) (found) : lines.foldl addQueue found =
      (lines.filterMap gpuQueue).foldl sumQueue found := by
    induction lines generalizing found with
    | nil => rfl
    | cons line lines ih =>
      rw [List.foldl_cons, ih, addQueue_eq, List.filterMap_cons]
      cases gpuQueue line <;> rfl
  rw [gpuStats, hfold, queuesOf]

section Guard

theorem toNat_kWireMaximum : kWireMaximum.toNat = 2 ^ 63 - 1 := by decide

theorem skips_some : skips (some (timestamp, total)) queue ↔
    timestamp ≠ queue.1 ∨ kWireMaximum - queue.2 < total := by
  simp [skips]

/-- For a runtime within the limit, the guard compares the sum with the limit. -/
theorem guard_iff (hqueue : queue.2 ≤ kWireMaximum) :
    kWireMaximum - queue.2 < total ↔ 2 ^ 63 - 1 < total.toNat + queue.2.toNat := by
  have hle : queue.2.toNat ≤ 2 ^ 63 - 1 := UInt64.le_iff_toNat_le.mp hqueue
  rw [UInt64.lt_iff_toNat_lt, UInt64.toNat_sub_of_le _ _ hqueue, toNat_kWireMaximum]
  omega

/-- Beyond the limit, its subtraction wraps around and lets the runtime through. -/
theorem guard_wraps (htotal : total ≤ kWireMaximum) (hqueue : kWireMaximum < queue.2) :
    ¬ kWireMaximum - queue.2 < total := by
  have hle : total.toNat ≤ 2 ^ 63 - 1 := UInt64.le_iff_toNat_le.mp htotal
  have hlt : 2 ^ 63 - 1 < queue.2.toNat := UInt64.lt_iff_toNat_lt.mp hqueue
  have hword := queue.2.toNat_lt
  rw [UInt64.lt_iff_toNat_lt, UInt64.toNat_sub, toNat_kWireMaximum]
  omega

/-- What the guard lets through, within the limit, is added without wrapping around. -/
theorem add_exact (hqueue : queue.2 ≤ kWireMaximum) (hroom : ¬ kWireMaximum - queue.2 < total) :
    (total + queue.2).toNat = total.toNat + queue.2.toNat ∧ total + queue.2 ≤ kWireMaximum := by
  rw [guard_iff hqueue, Nat.not_lt] at hroom
  have hadd : (total + queue.2).toNat = total.toNat + queue.2.toNat := by
    rw [UInt64.toNat_add]
    exact Nat.mod_eq_of_lt (by omega)
  refine ⟨hadd, ?_⟩
  rw [UInt64.le_iff_toNat_le, hadd, toNat_kWireMaximum]
  exact hroom

end Guard

section Run

/-- A queue is skipped, or it is of this timestamp and is added. -/
theorem step_cases (timestamp total : UInt64) (queue : UInt64 × UInt64) :
    (skips (some (timestamp, total)) queue ∧
      sumQueue (some (timestamp, total)) queue = some (timestamp, total)) ∨
    (queue.1 = timestamp ∧ ¬ skips (some (timestamp, total)) queue ∧
      sumQueue (some (timestamp, total)) queue = some (timestamp, total + queue.2)) := by
  by_cases hskips : skips (some (timestamp, total)) queue
  case pos => exact .inl ⟨hskips, by rw [sumQueue, if_pos hskips]⟩
  case neg =>
    have hsame : queue.1 = timestamp := by
      by_contra hne
      exact hskips (skips_some.mpr (.inl (Ne.symm hne)))
    exact .inr ⟨hsame, hskips, by rw [sumQueue, if_neg hskips, hsame]; rfl⟩

theorem accepted_skip (h : skips found queue) :
    accepted found (queue :: queues) = accepted found queues := by
  rw [accepted, if_pos h]

theorem accepted_add (h : ¬ skips found queue) :
    accepted found (queue :: queues) = queue :: accepted (sumQueue found queue) queues := by
  rw [accepted, if_neg h]

theorem accepted_sublist : (accepted found queues).Sublist queues := by
  induction queues generalizing found with
  | nil => exact List.Sublist.refl _
  | cons queue queues ih =>
    rw [accepted]
    split
    · exact ih.cons queue
    · exact ih.cons_cons queue

theorem le_runtimeOf (h : queue ∈ queues) : queue.2.toNat ≤ runtimeOf queues :=
  List.le_sum_of_mem (List.mem_map_of_mem h)

/-- The timestamp that was found first stays. -/
theorem foldl_timestamp (timestamp total : UInt64) (queues : List (UInt64 × UInt64)) :
    (∃ runtime, queues.foldl sumQueue (some (timestamp, total)) = some (timestamp, runtime)) ∧
      ∀ queue ∈ accepted (some (timestamp, total)) queues, queue.1 = timestamp := by
  induction queues generalizing total with
  | nil => exact ⟨⟨total, rfl⟩, by simp [accepted]⟩
  | cons queue queues ih =>
    rw [List.foldl_cons]
    rcases step_cases timestamp total queue with ⟨hskips, hstep⟩ | ⟨hsame, hadds, hstep⟩
    · rw [hstep, accepted_skip hskips]
      exact ih total
    · rw [accepted_add hadds, hstep]
      obtain ⟨hruntime, hall⟩ := ih (total + queue.2)
      exact ⟨hruntime, List.forall_mem_cons.mpr ⟨hsame, hall⟩⟩

/-- Where no accepted runtime is beyond the limit, the sum is exact and within it. -/
theorem foldl_exact (htotal : total ≤ kWireMaximum)
    (hall : ∀ queue ∈ accepted (some (timestamp, total)) queues, queue.2 ≤ kWireMaximum)
    (hfold : queues.foldl sumQueue (some (timestamp, total)) = some (timestamp, runtime)) :
    runtime.toNat = total.toNat + runtimeOf (accepted (some (timestamp, total)) queues) ∧
      runtime ≤ kWireMaximum := by
  induction queues generalizing total with
  | nil =>
    obtain ⟨-, rfl⟩ := Prod.mk.inj (Option.some_inj.mp hfold)
    exact ⟨rfl, htotal⟩
  | cons queue queues ih =>
    rw [List.foldl_cons] at hfold
    rcases step_cases timestamp total queue with ⟨hskips, hstep⟩ | ⟨-, hadds, hstep⟩
    · rw [hstep] at hfold
      rw [accepted_skip hskips] at hall ⊢
      exact ih htotal hall hfold
    · rw [hstep] at hfold
      rw [accepted_add hadds, hstep] at hall ⊢
      obtain ⟨hqueue, hrest⟩ := List.forall_mem_cons.mp hall
      have hroom : ¬ kWireMaximum - queue.2 < total := fun h => hadds (skips_some.mpr (.inr h))
      obtain ⟨hadd, hnext⟩ := add_exact hqueue hroom
      obtain ⟨hsum, hle⟩ := ih hnext hrest hfold
      refine ⟨?_, hle⟩
      rw [hsum, hadd, runtimeOf, runtimeOf, List.map_cons, List.sum_cons, Nat.add_assoc]

/-- The first runtime beyond the limit is accepted. -/
theorem exists_beyond (htotal : total ≤ kWireMaximum) (hqueue : queue ∈ queues)
    (hsame : queue.1 = timestamp) (hbeyond : kWireMaximum < queue.2) :
    ∃ other ∈ accepted (some (timestamp, total)) queues, kWireMaximum < other.2 := by
  induction queues generalizing total with
  | nil => cases hqueue
  | cons first queues ih =>
    rcases step_cases timestamp total first with ⟨hskips, hstep⟩ | ⟨-, hadds, hstep⟩
    · rw [accepted_skip hskips]
      rcases List.mem_cons.mp hqueue with rfl | hrest
      · rcases skips_some.mp hskips with hne | hguard
        · exact absurd hsame.symm hne
        · exact absurd hguard (guard_wraps htotal hbeyond)
      · exact ih htotal hrest
    · rw [accepted_add hadds, hstep]
      by_cases hfirst : first.2 ≤ kWireMaximum
      · have hroom : ¬ kWireMaximum - first.2 < total := fun h => hadds (skips_some.mpr (.inr h))
        have hne : queue ≠ first := by
          rintro rfl
          exact UInt64.not_le.mpr hbeyond hfirst
        have hrest : queue ∈ queues := (List.mem_cons.mp hqueue).resolve_left hne
        obtain ⟨other, hother, hlarge⟩ := ih (add_exact hfirst hroom).2 hrest
        exact ⟨other, List.mem_cons_of_mem _ hother, hlarge⟩
      · exact ⟨first, List.mem_cons_self, UInt64.not_le.mp hfirst⟩

end Run

/-- The sum is exact just if the first queue has no timestamp, or none of its timestamp has a
runtime beyond the limit. -/
theorem gpu_exact_iff (contents : StdString) : GpuExact contents ↔
    ∀ first ∈ (queuesOf contents).head?, first.1 ≠ 0 →
      ∀ queue ∈ queuesOf contents, queue.1 = first.1 → queue.2 ≤ kWireMaximum := by
  rw [GpuExact, gpuStats_eq]
  cases hqueues : queuesOf contents with
  | nil => simp
  | cons first queues =>
    have hstart : sumQueue none first = some first := by simp [sumQueue, skips]
    have hskips : ¬ skips none first := by simp [skips]
    obtain ⟨⟨runtime, hfold⟩, hsame⟩ := foldl_timestamp first.1 first.2 queues
    rw [accepted_add hskips, hstart, List.foldl_cons, hstart, hfold]
    constructor
    case mp =>
      rintro hexact _ ⟨⟩ htime queue hqueue hsameTime
      by_contra hlarge
      rw [UInt64.not_le] at hlarge
      obtain ⟨other, hother, hbeyond⟩ : ∃ other ∈ first :: accepted (some first) queues,
          kWireMaximum < other.2 := by
        by_cases hfirst : first.2 ≤ kWireMaximum
        · have hne : queue ≠ first := by
            rintro rfl
            exact UInt64.not_le.mpr hlarge hfirst
          obtain ⟨other, hother, hbeyond⟩ := exists_beyond hfirst
            ((List.mem_cons.mp hqueue).resolve_left hne) hsameTime hlarge
          exact ⟨other, List.mem_cons_of_mem _ hother, hbeyond⟩
        · exact ⟨first, List.mem_cons_self, UInt64.not_le.mp hfirst⟩
      obtain ⟨hsum, hle, -⟩ := hexact first.1 runtime (by simpa using UInt64.pos_iff_ne_zero.mpr htime)
      have hother := le_runtimeOf hother
      rw [UInt64.lt_iff_toNat_lt, toNat_kWireMaximum] at hbeyond
      omega
    case mpr =>
      intro hall timestamp total hfilter
      obtain ⟨heq, hpos⟩ := Option.filter_eq_some_iff.mp hfilter
      cases heq
      have htime : first.1 ≠ 0 := UInt64.pos_iff_ne_zero.mp (by simpa using hpos)
      have hwithin := hall first rfl htime
      have haccepted : ∀ queue ∈ accepted (some first) queues, queue.2 ≤ kWireMaximum :=
        fun queue hqueue => hwithin queue
          (List.mem_cons_of_mem _ (accepted_sublist.mem hqueue)) (hsame queue hqueue)
      obtain ⟨hsum, hle⟩ := foldl_exact (hwithin first List.mem_cons_self rfl) haccepted hfold
      refine ⟨?_, UInt64.le_iff_toNat_le.mp hle, List.forall_mem_cons.mpr ⟨rfl, hsame⟩⟩
      rw [hsum, runtimeOf, runtimeOf, List.map_cons, List.sum_cons]

/-- A runtime of 2^63, in one line. -/
theorem gpu_beyond_limit : ¬ GpuExact (lit "bin 1 1 9223372036854775808\n") := by
  intro hexact
  have hstats : gpuStats (lit "bin 1 1 9223372036854775808\n") = some (1, 9223372036854775808) := by
    decide +kernel
  obtain ⟨-, hle, -⟩ := hexact _ _ hstats
  exact absurd hle (by decide)

end RpiDashboard.Daemon
