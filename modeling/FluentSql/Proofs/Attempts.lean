import FluentSql.Availability
import Mathlib.Data.ENat.Lattice

/-!
# Attempts and pauses

A wait passes over the probes that find the database down, one after the
other, and ends at the first probe that does not, or at its last attempt.
Without its reports a wait is its probes with a pause between each two.
-/

set_option autoImplicit false

namespace FluentSql.Availability

/-! ## The probe that ends a wait -/

def Probe.isFinal : Probe → Bool
  | .available | .broken _ => true
  | .down _ => false

/-- The place of the first probe that is final, counted from one; infinite if there is none. -/
noncomputable def Probes.firstFinal (probes : Probes) : ENat :=
  ⨅ (i : Nat) (_ : (probes i).isFinal = true), ((i + 1 : Nat) : ENat)

variable {probes : Probes} {made i n : Nat}

theorem Probes.firstFinal_le (final : (probes i).isFinal = true) :
    probes.firstFinal ≤ (i + 1 : Nat) :=
  iInf₂_le i final

theorem Probes.down_before (early : (i + 1 : Nat) < probes.firstFinal) :
    (probes i).isFinal = false := by
  rw [Bool.eq_false_iff]
  intro final
  exact absurd (firstFinal_le final) (not_le.mpr early)

theorem Probes.le_firstFinal (down : ∀ j < n, (probes j).isFinal = false) :
    ((n + 1 : Nat) : ENat) ≤ probes.firstFinal := by
  refine le_iInf₂ fun j final => Nat.cast_le.mpr ?_
  by_contra early
  rw [down j (by omega)] at final
  cases final

theorem Probes.firstFinal_eq_iff :
    probes.firstFinal = (i + 1 : Nat) ↔
      (probes i).isFinal = true ∧ ∀ j < i, (probes j).isFinal = false := by
  constructor
  · intro here
    have down : ∀ j < i, (probes j).isFinal = false := by
      intro j earlier
      apply down_before
      rw [here]
      exact Nat.cast_lt.mpr (by omega)
    refine ⟨?_, down⟩
    -- If this one were down as well, the first final probe would come later.
    by_contra missing
    have later : ((i + 1 + 1 : Nat) : ENat) ≤ probes.firstFinal := by
      apply le_firstFinal
      intro j within
      rcases Nat.lt_succ_iff_lt_or_eq.mp within with earlier | rfl
      · exact down j earlier
      · simpa using missing
    rw [here, Nat.cast_le] at later
    omega
  · rintro ⟨final, down⟩
    exact le_antisymm (firstFinal_le final) (le_firstFinal down)

theorem Probes.final_or_down (probes : Probes) (n : Nat) :
    (∃ i < n, probes.firstFinal = (i + 1 : Nat)) ∨ ∀ j < n, (probes j).isFinal = false := by
  by_cases reached : ∃ i, i < n ∧ (probes i).isFinal = true
  · left
    refine ⟨Nat.find reached, (Nat.find_spec reached).1, ?_⟩
    rw [firstFinal_eq_iff]
    refine ⟨(Nat.find_spec reached).2, fun j earlier => ?_⟩
    have small : j < n := earlier.trans (Nat.find_spec reached).1
    simpa [small] using Nat.find_min reached earlier
  · right
    intro j within
    by_contra final
    exact reached ⟨j, within, by simpa using final⟩

/-! ## What a wait does -/

def Trace.acts (t : Trace) : Trace :=
  t.filter fun
    | .reported _ => false
    | _ => true

theorem Trace.probeCount_acts (t : Trace) : t.acts.probeCount = t.probeCount := by
  rw [probeCount, probeCount, acts, List.filter_filter]
  congr 2
  funext event
  cases event <;> rfl

theorem Trace.sleeps_acts (t : Trace) : t.acts.sleeps = t.sleeps := by
  induction t with
  | nil => rfl
  | cons event t ih => cases event <;> simpa [acts, sleeps] using ih

def rounds (delay : Value) (count : Nat) : Trace :=
  (List.replicate count .probed).intersperse (.slept delay)

theorem rounds_next (delay : Value) (count : Nat) :
    rounds delay (count + 2) = .probed :: .slept delay :: rounds delay (count + 1) := rfl

theorem probeCount_rounds (delay : Value) (count : Nat) :
    (rounds delay count).probeCount = count := by
  induction count with
  | zero => rfl
  | succ count ih =>
    cases count with
    | zero => rfl
    | succ count =>
      rw [rounds_next]
      simpa [Trace.probeCount] using ih

theorem sleeps_rounds (delay : Value) (count : Nat) :
    (rounds delay count).sleeps = List.replicate (count - 1) delay := by
  induction count with
  | zero => rfl
  | succ count ih =>
    cases count with
    | zero => rfl
    | succ count =>
      rw [rounds_next]
      simpa [Trace.sleeps, List.replicate_succ] using ih

theorem Trace.counts_of_acts {t : Trace} {delay : Value} {count : Nat}
    (acts : t.acts = rounds delay count) :
    t.probeCount = count ∧ t.sleeps = List.replicate (count - 1) delay := by
  constructor
  · rw [← t.probeCount_acts, acts, probeCount_rounds]
  · rw [← t.sleeps_acts, acts, sleeps_rounds]

namespace Wait

variable (w : Wait)

/-! ## One attempt -/

/-- What the last probe makes of the wait. -/
def verdict : Probe → Except Fault Unit
  | .available => .ok ()
  | .broken reason => .error (.engine reason)
  | .down _ => w.giveUp.1

theorem verdict_of_down {p : Probe} (down : p.isFinal = false) : w.verdict p = w.giveUp.1 := by
  cases p with
  | available | broken _ => cases down
  | down reason => rfl

theorem continueFrom_ends {left : Nat} (ends : (probes made).isFinal = true ∨ left = 0) :
    (w.continueFrom probes made (left + 1)).1 = w.verdict (probes made) ∧
      (w.continueFrom probes made (left + 1)).2.acts = [.probed] := by
  rw [continueFrom]
  cases answer : probes made with
  | available => exact ⟨rfl, rfl⟩
  | broken reason => exact ⟨rfl, rfl⟩
  | down reason =>
    have last : left = 0 := by simpa [answer, Probe.isFinal] using ends
    subst last
    exact ⟨rfl, rfl⟩

theorem continueFrom_down (down : (probes made).isFinal = false) (left : Nat) :
    (w.continueFrom probes made (left + 2)).1 = (w.continueFrom probes (made + 1) (left + 1)).1 ∧
      (w.continueFrom probes made (left + 2)).2.acts =
        .probed :: .slept w.delay :: (w.continueFrom probes (made + 1) (left + 1)).2.acts := by
  rw [continueFrom]
  cases answer : probes made with
  | available | broken _ =>
    rw [answer] at down
    cases down
  | down reason => exact ⟨rfl, rfl⟩

/-! ## All attempts -/

theorem continueFrom_past (made left : Nat) (down : ∀ j < i, (probes (made + j)).isFinal = false)
    (ends : (probes (made + i)).isFinal = true ∨ left = 0) :
    (w.continueFrom probes made (i + left + 1)).1 = w.verdict (probes (made + i)) ∧
      (w.continueFrom probes made (i + left + 1)).2.acts = rounds w.delay (i + 1) := by
  induction i generalizing made with
  | zero =>
    rw [Nat.zero_add]
    exact w.continueFrom_ends ends
  | succ i ih =>
    have shifted (j : Nat) : made + 1 + j = made + (j + 1) := by omega
    have attempts : i + 1 + left + 1 = i + left + 2 := by omega
    have first : (probes made).isFinal = false := down 0 (Nat.succ_pos i)
    obtain ⟨same, acts⟩ := w.continueFrom_down first (i + left)
    have later : ∀ j < i, (probes (made + 1 + j)).isFinal = false := by
      intro j within
      rw [shifted]
      exact down (j + 1) (by omega)
    obtain ⟨result, rest⟩ := ih (made + 1) later (by rwa [shifted])
    rw [shifted] at result
    rw [attempts]
    exact ⟨same.trans result, by rw [acts, rest, rounds_next]⟩

theorem continueFrom_firstFinal (first : probes.firstFinal = (i + 1 : Nat)) (within : i < n) :
    (w.continueFrom probes 0 n).1 = w.verdict (probes i) ∧
      (w.continueFrom probes 0 n).2.acts = rounds w.delay (i + 1) := by
  obtain ⟨final, down⟩ := Probes.firstFinal_eq_iff.mp first
  obtain ⟨left, rfl⟩ := Nat.exists_eq_add_of_lt within
  have earlier : ∀ j < i, (probes (0 + j)).isFinal = false := by simpa using down
  have past := w.continueFrom_past 0 left earlier
  rw [Nat.zero_add] at past
  exact past (.inl final)

theorem continueFrom_down_throughout (down : ∀ j < n, (probes j).isFinal = false) :
    (w.continueFrom probes 0 n).1 = w.giveUp.1 ∧
      (w.continueFrom probes 0 n).2.acts = rounds w.delay n := by
  cases n with
  | zero => exact ⟨rfl, rfl⟩
  | succ i =>
    have earlier : ∀ j < i, (probes (0 + j)).isFinal = false := by
      intro j within
      rw [Nat.zero_add]
      exact down j (by omega)
    obtain ⟨result, acts⟩ := w.continueFrom_past 0 0 earlier (.inr rfl)
    rw [Nat.zero_add, w.verdict_of_down (down i (Nat.lt_succ_self i))] at result
    exact ⟨result, acts⟩

theorem run_of_count (probes : Probes) {count : Int}
    (counted : w.attempts.count? = some count) :
    (w.run probes).1 = (w.continueFrom probes 0 count.toNat).1 ∧
      (w.run probes).2.acts = (w.continueFrom probes 0 count.toNat).2.acts := by
  rw [run, counted]
  exact ⟨rfl, rfl⟩

theorem continueFrom_rounds (probes : Probes) (n : Nat) :
    ∃ made : Nat, (made : ENat) = min probes.firstFinal n ∧
      (w.continueFrom probes 0 n).2.acts = rounds w.delay made := by
  rcases probes.final_or_down n with ⟨i, within, first⟩ | down
  · have reached : ((i + 1 : Nat) : ENat) ≤ n := Nat.cast_le.mpr within
    refine ⟨i + 1, ?_, (w.continueFrom_firstFinal first within).2⟩
    rw [first, min_eq_left reached]
  · have beyond : (n : ENat) ≤ probes.firstFinal :=
      le_trans (Nat.cast_le.mpr (Nat.le_succ n)) (Probes.le_firstFinal down)
    exact ⟨n, (min_eq_right beyond).symm, (w.continueFrom_down_throughout down).2⟩

/-- A wait makes as many probes as it takes to come to a final one, within the attempts it is
given, none if their number is below one; it pauses for its delay between each two probes and at
no other time. It succeeds if the first final probe is within the attempts and finds the database
available, passes on another failure of that probe, and else reports the database unavailable. -/
theorem run_probes_and_pauses (probes : Probes) {count : Int}
    (counted : w.attempts.count? = some count) :
    (∃ made : Nat, (made : ENat) = min probes.firstFinal count.toNat ∧
      (w.run probes).2.probeCount = made ∧
      (w.run probes).2.sleeps = List.replicate (made - 1) w.delay ∧
      (w.run probes).2.acts = rounds w.delay made) ∧
    (∀ i : Nat, probes.firstFinal = (i + 1 : Nat) → (i + 1 : Nat) ≤ count →
      (probes i = .available → (w.run probes).1 = .ok ()) ∧
      ∀ reason, probes i = .broken reason → (w.run probes).1 = .error (.engine reason)) ∧
    (¬probes.firstFinal ≤ count.toNat →
      (w.run probes).1 = .error (.unavailable w.target w.attempts.plain)) := by
  obtain ⟨result, deeds⟩ := w.run_of_count probes counted
  rw [result]
  refine ⟨?_, ?_, ?_⟩
  · obtain ⟨made, few, acts⟩ := w.continueFrom_rounds probes count.toNat
    rw [← deeds] at acts
    obtain ⟨probed, slept⟩ := Trace.counts_of_acts acts
    exact ⟨made, few, probed, slept, acts⟩
  · intro i first within
    have early : i < count.toNat := by omega
    rw [(w.continueFrom_firstFinal first early).1]
    constructor
    · intro available
      rw [available]
      rfl
    · intro reason broken
      rw [broken]
      rfl
  · intro beyond
    have down : ∀ j < count.toNat, (probes j).isFinal = false := by
      intro j within
      apply Probes.down_before
      exact lt_of_le_of_lt (Nat.cast_le.mpr within) (not_le.mp beyond)
    rw [(w.continueFrom_down_throughout down).1]
    rfl

theorem lastAttempt_broken :
    let w : Wait := ⟨"fake://db", .int 3, .int 2⟩
    let probes := Probes.ofList [.down "refused", .down "starting", .broken "disk full"]
    w.attempts.count? = some 3 ∧ probes.firstFinal = 3 ∧
      (w.run probes).2.acts =
        [.probed, .slept (.int 2), .probed, .slept (.int 2), .probed] ∧
      (w.run probes).1 = .error (.engine "disk full") := by
  intro w probes
  have counted : w.attempts.count? = some 3 := rfl
  have first : probes.firstFinal = (2 + 1 : Nat) :=
    Probes.firstFinal_eq_iff.mpr ⟨rfl, by decide⟩
  obtain ⟨⟨made, few, -, -, acts⟩, settled, -⟩ := w.run_probes_and_pauses probes counted
  have three : made = 3 := by
    rw [first] at few
    exact Nat.cast_injective (few.trans (min_self _))
  subst three
  exact ⟨counted, first, acts, (settled 2 first (by decide)).2 "disk full" rfl⟩

end Wait

end FluentSql.Availability
