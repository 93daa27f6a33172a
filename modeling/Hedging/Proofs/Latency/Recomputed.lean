import Hedging.Proofs.Latency.Sliding
import Hedging.Proofs.Number.Whole
import Hedging.Proofs.Run.Accounts

/-!
# Running sums without drift

A window never adds its samples up again: each insertion takes one value out of the sums and puts
one in, for ever. As long as whole numbers of that size are exact, this is as good as adding up what
is held, and nothing is left of the samples that have gone.

> `foldl_exchange`: after any number of insertions a running sum is the sum over the last `c` samples,
> if that can never be more than the arithmetic is exact for.
> `statistics_recomputed`: with exact arithmetic up to the 53rd power of two, sum and sum of squares
> are those of the last `c` samples, and mean, deviation and delay depend on nothing else, not even
> on the order of these.

`exactUpTo_float` supplies what is asked of the arithmetic. Beyond the limit a residue of a sample can
stay behind when it has gone.
-/

namespace Hedging

namespace Window

variable {F : Type} [Arithmetic F] {bound : Nat}

open Arithmetic (ofNat ExactUpTo)

/-! ## Running sums -/

/-- What samples add up to, each with its worth. -/
def total (worth : UInt32 → Nat) (values : List UInt32) : Nat := (values.map worth).sum

theorem total_append (worth : UInt32 → Nat) (values : List UInt32) (value : UInt32) :
    total worth (values ++ [value]) = total worth values + worth value := by
  simp [total]

theorem total_perm {worth : UInt32 → Nat} {a b : List UInt32} (h : a.Perm b) :
    total worth a = total worth b := (h.map worth).sum_eq

/-- The last `c` samples are worth no more than `c` times as much as one can be. -/
theorem total_rtake_le {worth : UInt32 → Nat} {most : Nat} {values : List UInt32}
    (h : ∀ v ∈ values, worth v ≤ most) (c : Nat) : total worth (values.rtake c) ≤ c * most := by
  have length : ((values.rtake c).map worth).length ≤ c := by
    rw [List.length_map, List.rtake, List.length_drop]
    omega
  have each : ∀ n ∈ (values.rtake c).map worth, n ≤ most := by
    intro n hn
    obtain ⟨v, hv, rfl⟩ := List.mem_map.mp hn
    exact h v (List.mem_of_mem_drop hv)
  calc total worth (values.rtake c) ≤ ((values.rtake c).map worth).length * most :=
        List.sum_le_card_nsmul _ _ each
    _ ≤ c * most := Nat.mul_le_mul_right _ length

/-- The oldest of the last `c` samples is the one that leaves. -/
theorem rtake_of_leaving {c : Nat} {values : List UInt32} {old : UInt32}
    (h : leaving (c + 1) values = some old) : values.rtake (c + 1) = old :: values.rtake c := by
  rw [leaving] at h
  split at h
  next => cases h
  next hlen =>
    obtain ⟨hlt, hold⟩ := List.getElem?_eq_some_iff.mp h
    rw [List.rtake, List.drop_eq_getElem_cons hlt, hold, List.rtake,
      show values.length - (c + 1) + 1 = values.length - c by omega]

theorem rtake_of_not_leaving {c : Nat} {values : List UInt32}
    (h : leaving (c + 1) values = none) : values.rtake (c + 1) = values.rtake c := by
  rw [leaving] at h
  split at h
  next hlen => rw [List.rtake, List.rtake, show values.length - (c + 1) = values.length - c by omega]
  next hlen =>
    rw [List.getElem?_eq_none_iff] at h
    omega

/-- A running sum is the sum over the last `c` samples. -/
theorem foldl_exchange (law : ExactUpTo F bound) {c : Nat} (hc : 0 < c)
    {weight : UInt32 → F} {worth : UInt32 → Nat} {most : Nat} (room : c * most ≤ bound)
    (values : List UInt32) (whole : ∀ v ∈ values, weight v = ofNat (worth v))
    (few : ∀ v ∈ values, worth v ≤ most) :
    (exchanges c values).foldl (exchange weight) (ofNat 0)
      = ofNat (total worth (values.rtake c)) := by
  obtain ⟨c, rfl⟩ := Nat.exists_eq_succ_of_ne_zero hc.ne'
  induction values using List.reverseRecOn with
  | nil => simp [exchanges, total]
  | append_singleton values value ih =>
    have before := ih (fun v hv => whole v (List.mem_append_left _ hv))
      (fun v hv => few v (List.mem_append_left _ hv))
    have inserted : weight value = ofNat (worth value) := whole value (by simp)
    have fits : total worth (values.rtake c) + worth value ≤ bound := by
      have most := total_rtake_le few (c + 1)
      rw [List.rtake_concat_succ, total_append] at most
      exact Nat.le_trans most room
    rw [exchanges_append hc, List.foldl_append, List.foldl_cons, List.foldl_nil, before,
      List.rtake_concat_succ, total_append]
    cases hleaving : leaving (c + 1) values with
    | none =>
      rw [exchange, inserted, rtake_of_not_leaving hleaving, law.add fits]
    | some old =>
      have there : old ∈ values := by
        refine List.mem_of_mem_drop (?_ : old ∈ values.rtake (c + 1))
        rw [rtake_of_leaving hleaving]
        exact List.mem_cons_self ..
      have held : total worth (values.rtake (c + 1)) ≤ bound :=
        Nat.le_trans (total_rtake_le (fun v hv => few v (List.mem_append_left _ hv)) _) room
      rw [rtake_of_leaving hleaving] at held ⊢
      have split : total worth (old :: values.rtake c) = worth old + total worth (values.rtake c) := by
        simp [total]
      rw [split] at held ⊢
      rw [exchange, inserted, whole old (List.mem_append_left _ there),
        law.sub held (Nat.le_add_right ..), Nat.add_sub_cancel_left, law.add fits]

/-! ## The two sums -/

/-- The square of a sample. -/
def squared (value : UInt32) : Nat := value.toNat * value.toNat

theorem sum_addAll (law : ExactUpTo F bound) {c : Nat} (hc : 0 < c) {most : Nat}
    (room : c * most ≤ bound) {values : List UInt32} (few : ∀ v ∈ values, v.toNat ≤ most) :
    ((Window.empty c : Window F).addAll values).sum
      = ofNat (total UInt32.toNat (values.rtake c)) := by
  rw [(Slides.addAll hc values).sum]
  exact foldl_exchange law hc room values (fun _ _ => rfl) few

theorem sumSquares_addAll (law : ExactUpTo F bound) {c : Nat} (hc : 0 < c) {most : Nat}
    (room : c * most * most ≤ bound) {values : List UInt32} (few : ∀ v ∈ values, v.toNat ≤ most) :
    ((Window.empty c : Window F).addAll values).sumSquares
      = ofNat (total squared (values.rtake c)) := by
  rw [Nat.mul_assoc] at room
  have small : ∀ v ∈ values, squared v ≤ most * most := fun v hv =>
    Nat.mul_le_mul (few v hv) (few v hv)
  have fits : ∀ v ∈ values, squared v ≤ bound := fun v hv =>
    Nat.le_trans (small v hv) (Nat.le_trans (Nat.le_mul_of_pos_left _ hc) room)
  have whole : ∀ v ∈ values, (square v : F) = ofNat (squared v) := by
    intro v hv
    have plainFits : v.toNat ≤ bound := Nat.le_trans (Nat.le_mul_self _) (fits v hv)
    exact law.mul plainFits plainFits (fits v hv)
  rw [(Slides.addAll hc values).sumSquares]
  exact foldl_exchange law hc room values whole small

/-! ## What depends on the sums -/

theorem mean_congr {w w' : Window F} (size : w.size = w'.size) (sum : w.sum = w'.sum) :
    w.mean = w'.mean := by
  have empty : w.isEmpty = w'.isEmpty := congrArg (fun n => decide (n = 0)) size
  unfold mean
  rw [empty, size, sum]

theorem stdev_congr {w w' : Window F} (size : w.size = w'.size) (sum : w.sum = w'.sum)
    (sumSquares : w.sumSquares = w'.sumSquares) : w.stdev = w'.stdev := by
  have empty : w.isEmpty = w'.isEmpty := congrArg (fun n => decide (n = 0)) size
  unfold stdev
  rw [empty, size, sumSquares, mean_congr size sum]

theorem size_addAll {c : Nat} (hc : 0 < c) (values : List UInt32) :
    ((Window.empty c : Window F).addAll values).size = (values.rtake c).length := by
  rw [(Slides.addAll hc values).size, List.rtake, List.length_drop]
  omega

end Window

/-! ## The estimator -/

namespace SpreadEstimator

variable {F : Type} [Arithmetic F]

theorem foldl_addSample (e : SpreadEstimator F) (latencies : List Duration) :
    latencies.foldl addSample e =
      { e with window := e.window.addAll (latencies.map clipMillis) } := by
  induction latencies generalizing e with
  | nil => rfl
  | cons latency rest ih =>
    rw [List.foldl_cons, ih]
    rfl

theorem currentDelay_congr {e e' : SpreadEstimator F} (multiplier : e.multiplier = e'.multiplier)
    (size : e.window.size = e'.window.size) (mean : e.window.mean = e'.window.mean)
    (stdev : e.window.stdev = e'.window.stdev) : e.currentDelay = e'.currentDelay := by
  have empty : e.window.isEmpty = e'.window.isEmpty := congrArg (fun n => decide (n = 0)) size
  unfold currentDelay threshold
  rw [empty, mean, stdev, multiplier]

end SpreadEstimator

/-! ## The law -/

/-- As far as whole numbers are exact, the statistics over a window with room for `c` samples are
those of the last `c` samples, in whatever order these have come. -/
structure Recomputes (F : Type) [Arithmetic F] (c : Nat) : Prop where
  sum : ∀ {most : Nat}, c * most ≤ 2 ^ 53 → ∀ {values : List UInt32},
    (∀ v ∈ values, v.toNat ≤ most) →
      ((Window.empty c : Window F).addAll values).sum
        = Arithmetic.ofNat (Window.total UInt32.toNat (values.rtake c))
  /-- No sample is too large for a window that is not. -/
  sum_of_small : c ≤ 2 ^ 21 → ∀ values : List UInt32,
    ((Window.empty c : Window F).addAll values).sum
      = Arithmetic.ofNat (Window.total UInt32.toNat (values.rtake c))
  sumSquares : ∀ {most : Nat}, c * most * most ≤ 2 ^ 53 → ∀ {values : List UInt32},
    (∀ v ∈ values, v.toNat ≤ most) →
      ((Window.empty c : Window F).addAll values).sumSquares
        = Arithmetic.ofNat (Window.total Window.squared (values.rtake c))
  mean : ∀ {most : Nat}, c * most ≤ 2 ^ 53 → ∀ {a b : List UInt32},
    (∀ v ∈ a, v.toNat ≤ most) → (∀ v ∈ b, v.toNat ≤ most) → (a.rtake c).Perm (b.rtake c) →
      ((Window.empty c : Window F).addAll a).mean = ((Window.empty c : Window F).addAll b).mean
  stdev : ∀ {most : Nat}, c * most * most ≤ 2 ^ 53 → ∀ {a b : List UInt32},
    (∀ v ∈ a, v.toNat ≤ most) → (∀ v ∈ b, v.toNat ≤ most) → (a.rtake c).Perm (b.rtake c) →
      ((Window.empty c : Window F).addAll a).stdev = ((Window.empty c : Window F).addAll b).stdev
  delay : ∀ {most : Nat}, c * most * most ≤ 2 ^ 53 → ∀ (multiplier : F) {a b : List Duration},
    (∀ d ∈ a, (clipMillis d).toNat ≤ most) → (∀ d ∈ b, (clipMillis d).toNat ≤ most) →
      ((a.map clipMillis).rtake c).Perm ((b.map clipMillis).rtake c) →
        (a.foldl SpreadEstimator.addSample (.new multiplier c)).currentDelay
          = (b.foldl SpreadEstimator.addSample (.new multiplier c)).currentDelay
  /-- Two runs with the same last samples would hedge the next request after the same delay. -/
  runs : ∀ {most : Nat}, c * most * most ≤ 2 ^ 53 → ∀ (multiplier : F) {β σ ρ α ε : Type}
    [AdmissionBudget β] {svc svc' : Service σ ρ α ε} {service service' : σ} {budget budget' : β}
    {run run' : Run (SpreadEstimator F) β σ ρ α ε},
    Run.Reaches svc (.new service (.new multiplier c) budget) run →
    Run.Reaches svc' (.new service' (.new multiplier c) budget') run' →
    (∀ d ∈ run.fed.toList, (clipMillis d).toNat ≤ most) →
    (∀ d ∈ run'.fed.toList, (clipMillis d).toNat ≤ most) →
      ((run.fed.toList.map clipMillis).rtake c).Perm ((run'.fed.toList.map clipMillis).rtake c) →
        run.stats.currentDelay = run'.stats.currentDelay

section
variable {F : Type} [Arithmetic F]

theorem mul_le_of_mul_mul_le {c most bound : Nat} (h : c * most * most ≤ bound) :
    c * most ≤ bound := by
  rcases Nat.eq_zero_or_pos most with rfl | hpos
  · rw [Nat.mul_zero]
    exact Nat.zero_le _
  · exact Nat.le_trans (Nat.le_mul_of_pos_right _ hpos) h

variable (law : Arithmetic.ExactUpTo F (2 ^ 53)) {c : Nat} (hc : 0 < c) {most : Nat}
  {a b : List UInt32}
include law hc

theorem Window.mean_addAll (room : c * most ≤ 2 ^ 53) (ha : ∀ v ∈ a, v.toNat ≤ most)
    (hb : ∀ v ∈ b, v.toNat ≤ most) (same : (a.rtake c).Perm (b.rtake c)) :
    ((Window.empty c : Window F).addAll a).mean = ((Window.empty c : Window F).addAll b).mean := by
  refine mean_congr ?_ ?_
  · rw [size_addAll hc, size_addAll hc, same.length_eq]
  · rw [sum_addAll law hc room ha, sum_addAll law hc room hb, total_perm same]

theorem Window.stdev_addAll (room : c * most * most ≤ 2 ^ 53) (ha : ∀ v ∈ a, v.toNat ≤ most)
    (hb : ∀ v ∈ b, v.toNat ≤ most) (same : (a.rtake c).Perm (b.rtake c)) :
    ((Window.empty c : Window F).addAll a).stdev = ((Window.empty c : Window F).addAll b).stdev := by
  have less := mul_le_of_mul_mul_le room
  refine stdev_congr ?_ ?_ ?_
  · rw [size_addAll hc, size_addAll hc, same.length_eq]
  · rw [sum_addAll law hc less ha, sum_addAll law hc less hb, total_perm same]
  · rw [sumSquares_addAll law hc room ha, sumSquares_addAll law hc room hb, total_perm same]

theorem SpreadEstimator.currentDelay_foldl (room : c * most * most ≤ 2 ^ 53) (multiplier : F)
    {a b : List Duration} (ha : ∀ d ∈ a, (clipMillis d).toNat ≤ most)
    (hb : ∀ d ∈ b, (clipMillis d).toNat ≤ most)
    (same : ((a.map clipMillis).rtake c).Perm ((b.map clipMillis).rtake c)) :
    (a.foldl addSample (.new multiplier c)).currentDelay
      = (b.foldl addSample (.new multiplier c)).currentDelay := by
  have ha' : ∀ v ∈ a.map clipMillis, v.toNat ≤ most := by simpa using ha
  have hb' : ∀ v ∈ b.map clipMillis, v.toNat ≤ most := by simpa using hb
  rw [foldl_addSample, foldl_addSample]
  refine currentDelay_congr rfl ?_ ?_ ?_
  · show (Window.addAll _ _).size = (Window.addAll _ _).size
    rw [new, Window.size_addAll hc, Window.size_addAll hc, same.length_eq]
  · exact Window.mean_addAll law hc (mul_le_of_mul_mul_le room) ha' hb' same
  · exact Window.stdev_addAll law hc room ha' hb' same

theorem recomputes : Recomputes F c where
  sum room _ few := Window.sum_addAll law hc room few
  sum_of_small small values := by
    have room : c * (2 ^ 32 - 1) ≤ 2 ^ 53 :=
      Nat.le_trans (Nat.mul_le_mul_right _ small) (by decide)
    exact Window.sum_addAll law hc room fun v _ => Nat.le_sub_one_of_lt v.toNat_lt
  sumSquares room _ few := Window.sumSquares_addAll law hc room few
  mean room _ _ ha hb same := Window.mean_addAll law hc room ha hb same
  stdev room _ _ ha hb same := Window.stdev_addAll law hc room ha hb same
  delay room multiplier _ _ ha hb same :=
    SpreadEstimator.currentDelay_foldl law hc room multiplier ha hb same
  runs room multiplier := by
    intro _ _ _ _ _ _ _ _ _ _ _ _ run run' hrun hrun' ha hb same
    have learnt := hrun.counted.learnt
    have learnt' := hrun'.counted.learnt
    rw [← Array.foldl_toList] at learnt learnt'
    show DelayEstimator.currentDelay run.estimator = DelayEstimator.currentDelay run'.estimator
    rw [learnt, learnt']
    exact SpreadEstimator.currentDelay_foldl law hc room multiplier ha hb same

end

/-- **The statistics of a window are those of the samples it holds**, however many have gone through
it, as long as the sums cannot leave the whole numbers up to the 53rd power of two. All that this
takes of the arithmetic is that it is exact there, as that of floats is. -/
theorem statistics_recomputed {c : Nat} (hc : 0 < c) :
    (∀ {F : Type} [Arithmetic F], Arithmetic.ExactUpTo F (2 ^ 53) → Recomputes F c) ∧
      Recomputes Float c :=
  ⟨fun law => recomputes law hc, recomputes exactUpTo_float hc⟩

/-- Two samples have gone through a window of three, and the rest come in another order. -/
theorem statistics_recomputed_of_five :
    let values : List UInt32 := [90, 80, 10, 30, 20]
    let earlier : List Duration :=
      [.ofMillis 90, .ofMillis 80, .ofMillis 10, .ofMillis 30, .ofMillis 20]
    let later : List Duration := [.ofMillis 30, .ofMillis 20, .ofMillis 10]
    0 < 3 ∧ 3 * 90 * 90 ≤ 2 ^ 53 ∧ (∀ v ∈ values, v.toNat ≤ 90) ∧
      ((Window.empty 3 : Window Float).addAll values).sum = Float.ofNat 60 ∧
      ((Window.empty 3 : Window Float).addAll values).sumSquares = Float.ofNat 1400 ∧
      (earlier.foldl SpreadEstimator.addSample (.new (3 : Float) 3)).currentDelay
        = (later.foldl SpreadEstimator.addSample (.new (3 : Float) 3)).currentDelay ∧
      (later.foldl SpreadEstimator.addSample (.new (3 : Float) 3)).currentDelay
        = some (.ofMillis 44) := by
  intro values earlier later
  have law := (statistics_recomputed (c := 3) (by decide)).2
  have few : ∀ v ∈ values, v.toNat ≤ 90 := by simp [values]
  have room : 3 * 90 * 90 ≤ 2 ^ 53 := by decide
  have short : ∀ d ∈ earlier, (clipMillis d).toNat ≤ 90 := by decide
  have recent : ∀ d ∈ later, (clipMillis d).toNat ≤ 90 := by decide
  have same : ((earlier.map clipMillis).rtake 3).Perm ((later.map clipMillis).rtake 3) := by decide
  exact ⟨by decide, room, few, law.sum (mul_le_of_mul_mul_le room) few, law.sumSquares room few,
    law.delay room 3 short recent same, by decide +kernel⟩

/-- Beyond the limit, the large sample takes the first of the small ones with it when it goes. -/
example :
    ((Window.empty 2 : Window Float).addAll [4294967295, 1, 1]).sumSquares = Float.ofNat 1 ∧
      Window.total Window.squared ([4294967295, 1, 1].rtake 2) = 2 := by
  decide +kernel

end Hedging
