import Mathlib.Data.List.Basic

/-! Shell scripts under `set -e`: commands that change a state, of which the first that
fails ends the script. -/

namespace RpiDashboard

/-- The state a script leaves, and its exit status unless it goes on to what follows. -/
abbrev Script (σ : Type*) := σ → σ × Option Nat

namespace Script

variable {σ : Type*}

def skip : Script σ := fun s => (s, none)

def exit (status : Nat) : Script σ := fun s => (s, some status)

/-- A command with this exit status, and what it leaves. -/
def call (status : Nat) (effect : σ → σ) : Script σ :=
  fun s => (effect s, if status = 0 then none else some status)

def andThen (p q : Script σ) : Script σ := fun s =>
  match (p s).2 with
  | none => q (p s).1
  | some status => ((p s).1, some status)

/-- `p || :`. -/
def tolerate (p : Script σ) : Script σ := fun s => ((p s).1, none)

def sequence (ps : List (Script σ)) : Script σ := ps.foldr andThen skip

/-- Commands one after the other, by their exit statuses and what each leaves. -/
def calls {ι : Type*} (status : ι → Nat) (effect : ι → σ → σ) (sites : List ι) : Script σ :=
  sequence (sites.map fun site => call (status site) (effect site))

variable {p q r : Script σ} {ps qs : List (Script σ)} {s : σ} {status : Nat} {effect : σ → σ}

@[simp] theorem skip_apply : skip s = (s, none) := rfl

@[simp] theorem exit_apply : exit status s = (s, some status) := rfl

@[simp] theorem tolerate_call : tolerate (call status effect) s = (effect s, none) := rfl

theorem andThen_of_none (h : (p s).2 = none) : andThen p q s = q (p s).1 := by
  simp [andThen, h]

theorem andThen_of_some (h : (p s).2 = some status) : andThen p q s = ((p s).1, some status) := by
  simp [andThen, h]

theorem andThen_of_eq_none {s' : σ} (h : p s = (s', none)) : andThen p q s = q s' := by
  rw [andThen_of_none (congrArg Prod.snd h), h]

theorem andThen_of_eq_some {s' : σ} (h : p s = (s', some status)) :
    andThen p q s = (s', some status) := by
  rw [andThen_of_some (congrArg Prod.snd h), h]

@[simp] theorem sequence_nil : sequence ([] : List (Script σ)) = skip := rfl

@[simp] theorem sequence_cons : sequence (p :: ps) = andThen p (sequence ps) := rfl

@[simp] theorem skip_andThen : andThen skip q = q := rfl

@[simp] theorem andThen_skip : andThen p skip = p := by
  funext s
  cases h : (p s).2 with
  | none => rw [andThen_of_none h, skip_apply, ← h]
  | some status => rw [andThen_of_some h, ← h]

@[simp] theorem exit_andThen : andThen (exit status) q = exit status := rfl

theorem andThen_assoc : andThen (andThen p q) r = andThen p (andThen q r) := by
  funext s
  cases h : (p s).2 with
  | none => simp only [andThen, h]
  | some status => simp only [andThen, h]

theorem sequence_append : sequence (ps ++ qs) = andThen (sequence ps) (sequence qs) := by
  induction ps with
  | nil => rfl
  | cons p ps ih => rw [List.cons_append, sequence_cons, ih, sequence_cons, andThen_assoc]

/-- A command that succeeds. -/
theorem call_andThen (h : status = 0) : andThen (call status effect) q s = q (effect s) :=
  andThen_of_none (if_pos h)

/-- A command that fails ends the script. -/
theorem call_andThen_of_fails (h : status ≠ 0) :
    andThen (call status effect) q s = (effect s, some status) :=
  andThen_of_some (if_neg h)

theorem tolerate_andThen : andThen (tolerate p) q s = q (p s).1 := rfl

/-- A script goes on after a command just if the command succeeds. -/
theorem call_andThen_eq_none : (andThen (call status effect) q s).2 = none ↔
    status = 0 ∧ (q (effect s)).2 = none := by
  by_cases h : status = 0
  · rw [call_andThen h, and_iff_right h]
  · rw [call_andThen_of_fails h]
    simp [h]

/-- What every step of a sequence keeps, the sequence keeps, wherever it ends. -/
theorem sequence_invariant {P : σ → Prop} (hs : P s) (h : ∀ p ∈ ps, ∀ s, P s → P (p s).1) :
    P (sequence ps s).1 := by
  induction ps generalizing s with
  | nil => exact hs
  | cons p ps ih =>
    have hp : P (p s).1 := h p List.mem_cons_self s hs
    rw [sequence_cons]
    cases hstatus : (p s).2 with
    | none =>
      rw [andThen_of_none hstatus]
      exact ih hp fun q hq => h q (List.mem_cons_of_mem p hq)
    | some status =>
      rw [andThen_of_some hstatus]
      exact hp

section Calls

variable {ι : Type*} {statuses : ι → Nat} {effects : ι → σ → σ} {sites before after : List ι}
  {site : ι}

theorem calls_cons : calls statuses effects (site :: sites) =
    andThen (call (statuses site) (effects site)) (calls statuses effects sites) := rfl

/-- Commands end a script by failing only. -/
theorem calls_ne_zero : (calls statuses effects sites s).2 ≠ some 0 := by
  induction sites generalizing s with
  | nil => exact nofun
  | cons site sites ih =>
    rw [calls_cons]
    by_cases h : statuses site = 0
    · rw [call_andThen h]
      exact ih
    · rw [call_andThen_of_fails h]
      simpa using h

theorem calls_append : calls statuses effects (before ++ after) =
    andThen (calls statuses effects before) (calls statuses effects after) := by
  rw [calls, List.map_append, sequence_append]
  rfl

theorem calls_of_succeed (h : ∀ site ∈ sites, statuses site = 0) :
    calls statuses effects sites s = (sites.foldl (fun s site => effects site s) s, none) := by
  induction sites generalizing s with
  | nil => rfl
  | cons site sites ih =>
    have hsite : statuses site = 0 := h site List.mem_cons_self
    rw [calls_cons, call_andThen hsite]
    exact ih fun other ho => h other (List.mem_cons_of_mem site ho)

/-- The first that fails is the last that runs. -/
theorem calls_of_fails (hbefore : ∀ site ∈ before, statuses site = 0) (h : statuses site ≠ 0) :
    calls statuses effects (before ++ site :: after) s =
      (effects site (before.foldl (fun s site => effects site s) s), some (statuses site)) := by
  have hcalls : calls statuses effects before s = (_, none) := calls_of_succeed hbefore
  rw [calls_append, andThen_of_eq_none hcalls, calls_cons, call_andThen_of_fails h]

/-- If one command of a sequence writes a value and the others leave it alone, then it is
there at the end just if that command is in the sequence. -/
theorem foldl_view {β : Type*} [DecidableEq ι] {act : σ → ι → σ} {P : σ → Prop} {v : σ → β}
    {value : β} {writes : ι} (hs : P s) (hP : ∀ s, ∀ i ∈ sites, P s → P (act s i))
    (h : ∀ s, ∀ i ∈ sites, P s → v (act s i) = if i = writes then value else v s) :
    v (sites.foldl act s) = if writes ∈ sites then value else v s := by
  induction sites generalizing s with
  | nil => rfl
  | cons i sites ih =>
    have hview : v (act s i) = if i = writes then value else v s :=
      h s i List.mem_cons_self hs
    have hrest : v (sites.foldl act (act s i)) =
        if writes ∈ sites then value else v (act s i) :=
      ih (hP s i List.mem_cons_self hs) (fun s j hj => hP s j (List.mem_cons_of_mem i hj))
        fun s j hj => h s j (List.mem_cons_of_mem i hj)
    rw [List.foldl_cons, hrest, hview]
    by_cases hmem : writes ∈ sites
    · simp [hmem]
    · by_cases heq : i = writes
      · simp [heq]
      · simp [hmem, heq, Ne.symm heq]

end Calls

end Script

end RpiDashboard
