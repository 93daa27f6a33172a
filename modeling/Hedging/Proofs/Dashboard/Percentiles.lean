import Hedging.Dashboard.Statistics
import Hedging.Proofs.Dashboard.Agreement
import Hedging.Proofs.Dashboard.Journal
import Hedging.Proofs.Number.Percentage

/-!
# Percentiles are order statistics

The percentile of a rank `r` is the latency that has `r` others before it once the latencies are
sorted. `OrderStatistic` says this without any sorting, by counts alone: at least `r + 1` latencies
are no greater, and at least as many as are left from there on are no less. Only one latency can be
both (`OrderStatistic.unique`), so the order in which the lookups finished cannot matter. All is said
in the total order of the bit patterns, where NaNs and both zeros have their places.

> `recent_bounded`: whatever is done with a dashboard, it keeps a thousand latencies at most.
> `percentile_is_order_statistic`: every percentile is the order statistic of its rank, from the
> least latency up to zero percent to the greatest from a hundred on.
-/

namespace Hedging

open Dashboard (sortedLatencies latencyPercentileOf recentLimit)

/-! ## Order statistics -/

/-- The value with so many of some values before it in their total order. -/
structure OrderStatistic (values : List Binary64) (rank : Nat) (x : Binary64) : Prop where
  mem : x ∈ values
  below : rank + 1 ≤ values.countP fun y => decide (y.order ≤ x.order)
  above : values.length - rank ≤ values.countP fun y => decide (x.order ≤ y.order)

namespace OrderStatistic

variable {values values' : List Binary64} {rank : Nat} {x y : Binary64}

theorem perm (h : OrderStatistic values rank x) (hperm : values.Perm values') :
    OrderStatistic values' rank x :=
  ⟨hperm.mem_iff.mp h.mem, hperm.countP_eq _ ▸ h.below,
    hperm.length_eq ▸ hperm.countP_eq _ ▸ h.above⟩

/-- Two order statistics of one rank would leave too many values on both sides. -/
theorem le (hx : OrderStatistic values rank x) (hy : OrderStatistic values rank y)
    (hrank : rank ≤ values.length) : y.order ≤ x.order := by
  by_contra hlt
  have hdisjoint : values.countP (fun z => decide (y.order ≤ z.order)) ≤
      values.countP fun z => !decide (z.order ≤ x.order) := by
    refine List.countP_mono_left fun z _ hz => ?_
    have hz : y.order ≤ z.order := of_decide_eq_true hz
    have hnot : ¬ z.order ≤ x.order := by omega
    simpa using hnot
  have hparts := List.length_eq_countP_add_countP (fun z => decide (z.order ≤ x.order)) (l := values)
  have hbelow := hx.below
  have habove := hy.above
  have hnot : values.countP (fun z => !decide (z.order ≤ x.order)) =
      values.countP fun z => decide ¬ (decide (z.order ≤ x.order)) = true :=
    List.countP_congr fun z _ => by simp
  omega

theorem unique (hx : OrderStatistic values rank x) (hy : OrderStatistic values rank y)
    (hrank : rank ≤ values.length) : x = y :=
  Binary64.order_injective (Int.le_antisymm (hy.le hx hrank) (hx.le hy hrank))

/-- What stands at a place of a sorted list is the order statistic of that place. -/
theorem of_sorted (hsorted : values.Pairwise fun a b => a.order ≤ b.order)
    (h : values[rank]? = some x) : OrderStatistic values rank x := by
  obtain ⟨hlt, rfl⟩ := List.getElem?_eq_some_iff.mp h
  have hsplit : values = values.take rank ++ values[rank] :: values.drop (rank + 1) := by
    rw [← List.drop_eq_getElem_cons hlt, List.take_append_drop]
  have hparts := hsorted
  rw [hsplit, List.pairwise_append, List.pairwise_cons] at hparts
  obtain ⟨-, ⟨hlast, -⟩, hfirst⟩ := hparts
  have hbefore : (values.take rank).countP (fun y => decide (y.order ≤ values[rank].order)) =
      rank := by
    rw [List.countP_eq_length.mpr, List.length_take, Nat.min_eq_left (Nat.le_of_lt hlt)]
    intro y hy
    exact decide_eq_true (hfirst y hy _ List.mem_cons_self)
  have hafter : (values.drop (rank + 1)).countP (fun y => decide (values[rank].order ≤ y.order)) =
      values.length - (rank + 1) := by
    rw [List.countP_eq_length.mpr, List.length_drop]
    intro y hy
    exact decide_eq_true (hlast y hy)
  refine ⟨List.getElem_mem hlt, ?_, ?_⟩
  · calc rank + 1
        = (values.take rank).countP (fun y => decide (y.order ≤ values[rank].order)) + 1 := by
          rw [hbefore]
      _ ≤ (values.take rank ++ values[rank] :: values.drop (rank + 1)).countP
            fun y => decide (y.order ≤ values[rank].order) := by
          rw [List.countP_append, List.countP_cons, if_pos (decide_eq_true (Int.le_refl _))]
          omega
      _ = values.countP fun y => decide (y.order ≤ values[rank].order) := by rw [← hsplit]
  · calc values.length - rank
        = (values.drop (rank + 1)).countP (fun y => decide (values[rank].order ≤ y.order)) + 1 := by
          rw [hafter]
          omega
      _ ≤ (values.take rank ++ values[rank] :: values.drop (rank + 1)).countP
            fun y => decide (values[rank].order ≤ y.order) := by
          rw [List.countP_append, List.countP_cons, if_pos (decide_eq_true (Int.le_refl _))]
          omega
      _ = values.countP fun y => decide (values[rank].order ≤ y.order) := by rw [← hsplit]

/-- With none before it, an order statistic is the least of all. -/
theorem least (h : OrderStatistic values 0 x) : ∀ y ∈ values, x.order ≤ y.order := by
  have hall : values.countP (fun y => decide (x.order ≤ y.order)) = values.length :=
    Nat.le_antisymm List.countP_le_length h.above
  exact fun y hy => of_decide_eq_true (List.countP_eq_length.mp hall y hy)

/-- With all others before it, an order statistic is the greatest of all. -/
theorem greatest (h : OrderStatistic values (values.length - 1) x) :
    ∀ y ∈ values, y.order ≤ x.order := by
  have hsome := List.length_pos_of_mem h.mem
  have hbelow := h.below
  have hall : values.countP (fun y => decide (y.order ≤ x.order)) = values.length :=
    Nat.le_antisymm List.countP_le_length (by omega)
  exact fun y hy => of_decide_eq_true (List.countP_eq_length.mp hall y hy)

end OrderStatistic

/-! ## Percentiles -/

theorem sortedLatencies_perm (latencies : List Binary64) :
    (sortedLatencies latencies).Perm latencies := List.mergeSort_perm ..

theorem sortedLatencies_pairwise (latencies : List Binary64) :
    (sortedLatencies latencies).Pairwise fun a b => a.order ≤ b.order := by
  have htrans : ∀ a b c : Binary64, decide (a.order ≤ b.order) = true →
      decide (b.order ≤ c.order) = true → decide (a.order ≤ c.order) = true :=
    fun a b c hab hbc => decide_eq_true
      (Int.le_trans (of_decide_eq_true hab) (of_decide_eq_true hbc))
  have htotal : ∀ a b : Binary64,
      (decide (a.order ≤ b.order) || decide (b.order ≤ a.order)) = true := by
    intro a b
    rw [Bool.or_eq_true, decide_eq_true_iff, decide_eq_true_iff]
    exact Int.le_total a.order b.order
  exact (List.pairwise_mergeSort htrans htotal latencies).imp of_decide_eq_true

/-- The rank of a percentile among some latencies. -/
def cappedRank (latencies : List Binary64) (percent : Float) : Nat :=
  min (percentileRank percent latencies.length) (latencies.length - 1)

variable {latencies latencies' : List Binary64}

theorem cappedRank_lt (h : latencies ≠ []) (percent : Float) :
    cappedRank latencies percent < latencies.length := by
  have hsome := List.length_pos_iff.mpr h
  unfold cappedRank
  omega

theorem getElem?_cappedRank (h : latencies ≠ []) (percent : Float) :
    (sortedLatencies latencies)[cappedRank latencies percent]? =
      some (latencyPercentileOf latencies percent) := by
  have hlength := (sortedLatencies_perm latencies).length_eq
  have hlt : cappedRank latencies percent < (sortedLatencies latencies).length :=
    hlength.symm ▸ cappedRank_lt h percent
  rw [latencyPercentileOf, percentileOf, hlength, List.getD_eq_getElem?_getD]
  show _ = some ((sortedLatencies latencies)[cappedRank latencies percent]?.getD _)
  rw [List.getElem?_eq_getElem hlt, Option.getD_some]

theorem orderStatistic_percentile (h : latencies ≠ []) (percent : Float) :
    OrderStatistic latencies (cappedRank latencies percent)
      (latencyPercentileOf latencies percent) :=
  (OrderStatistic.of_sorted (sortedLatencies_pairwise latencies)
    (getElem?_cappedRank h percent)).perm (sortedLatencies_perm latencies)

theorem percentile_congr (hperm : latencies'.Perm latencies) (h : latencies ≠ []) (percent : Float) :
    latencyPercentileOf latencies' percent = latencyPercentileOf latencies percent := by
  have h' : latencies' ≠ [] := fun hnil => h (hperm.symm.trans (hnil ▸ .refl _)).eq_nil
  have hrank : cappedRank latencies' percent = cappedRank latencies percent := by
    unfold cappedRank
    rw [hperm.length_eq]
  have hother := (orderStatistic_percentile h' percent).perm hperm
  rw [hrank] at hother
  exact hother.unique (orderStatistic_percentile h percent)
    (Nat.le_of_lt (cappedRank_lt h percent))

theorem percentile_least (h : latencies ≠ []) {percent : Float}
    (hpercent : percent.isNaN = true ∨ percent ≤ 0) :
    ∀ x ∈ latencies, (latencyPercentileOf latencies percent).order ≤ x.order := by
  have hrank : cappedRank latencies percent = 0 := by
    rw [cappedRank, percentileRank_eq_zero hpercent, Nat.zero_min]
  exact (hrank ▸ orderStatistic_percentile h percent).least

theorem percentile_greatest (h : latencies ≠ []) (hmany : latencies.length ≤ 2 ^ 53)
    {percent : Float} (hpercent : 100 ≤ percent) :
    ∀ x ∈ latencies, x.order ≤ (latencyPercentileOf latencies percent).order := by
  have hrank : cappedRank latencies percent = latencies.length - 1 :=
    Nat.min_eq_right (le_percentileRank hpercent hmany)
  exact (hrank ▸ orderStatistic_percentile h percent).greatest

namespace Dashboard

variable {d later : Dashboard}

/-! ## How many latencies are kept -/

/-- A dashboard that keeps no more latencies than it may. -/
def RecentBounded (d : Dashboard) : Prop := d.recent.length ≤ recentLimit

namespace RecentBounded

theorem deliver (latency : Binary64) (d : Dashboard) (event : LookupEvent) :
    (d.deliver latency event).RecentBounded := by
  have hlength : (d.deliver latency event).memory.recent.length ≤ recentLimit := by
    rw [memory_deliver, length_pushRecent]
    exact Nat.min_le_left ..
  exact hlength

theorem spawnLookup (h : d.RecentBounded) (draws : Nat → Draw) :
    (d.spawnLookup draws).RecentBounded := by
  unfold Dashboard.spawnLookup
  cases d.mode with
  | hedged => exact h
  | direct => exact h

theorem takeFirst (h : d.RecentBounded) (waited : Duration) :
    (d.takeFirst waited).2.RecentBounded := by
  unfold Dashboard.takeFirst
  cases d.inbox with
  | nil => exact h
  | cons event inbox => exact deliver ..

theorem lookup (h : d.RecentBounded) (draws : Nat → Draw) : (d.lookup draws).2.RecentBounded := by
  unfold Dashboard.lookup
  split
  · have hreached : ((d.spawnLookup draws).awaitResult draws).RecentBounded := h.spawnLookup draws
    exact hreached.takeFirst _
  · exact (h.takeFirst .zero).spawnLookup draws

theorem drain (h : d.RecentBounded) (latency : Binary64) : (d.drain latency).2.RecentBounded := by
  have hall : ∀ events : List LookupEvent,
      (events.foldl (Dashboard.deliver latency) d).RecentBounded := by
    intro events
    induction events using List.reverseRecOn with
    | nil => exact h
    | append_singleton before event ih =>
      rw [List.foldl_append]
      exact deliver ..
  exact hall d.inbox

theorem act (h : d.RecentBounded) (draws : Nat → Draw) {op : DashboardOp}
    {events : List LookupEvent} (hact : d.act draws op = .ok (events, later)) :
    later.RecentBounded := by
  cases op with
  | toggleBatch =>
    cases hact
    unfold Dashboard.toggleBatch
    split
    · exact h
    · exact h
  | moreBatch =>
    change d.moreBatch.map ([], ·) = _ at hact
    by_cases hover : Batch.maxCount < d.batch.count + 10
    · rw [Dashboard.moreBatch, if_pos hover] at hact
      cases hact
    · rw [Dashboard.moreBatch, if_neg hover] at hact
      cases hact
      exact h
  | setUptime seconds =>
    change (d.setUptime seconds).map ([], ·) = _ at hact
    unfold Dashboard.setUptime at hact
    split at hact
    · cases hact
    · cases hact
      exact h
  | reset =>
    cases hact
    exact Nat.zero_le _
  | tally lane latency ok =>
    cases hact
    cases lane with
    | none => exact h
    | some lane => exact h
  | record lane latency ok message =>
    cases hact
    exact deliver latency d ⟨lane, ok, message⟩
  | lookup =>
    cases hact
    exact h.lookup draws
  | spawnLookup =>
    cases hact
    exact h.spawnLookup draws
  | drain latency =>
    cases hact
    exact h.drain latency
  | toggleMode | fewerBatch | setBatchCount count | moreTail | lessTail | setTail percent
  | refresh | sleep span | age count =>
    cases hact
    exact h

theorem apply (h : d.RecentBounded) (draws : Nat → Draw) (m : DashboardMove) :
    (d.apply draws m).RecentBounded := by
  cases m with
  | use op =>
    cases hact : d.act draws op with
    | error fault =>
      have hsame : d.apply draws (.use op) = d := by
        unfold Dashboard.apply
        simp only [hact]
      rw [hsame]
      exact h
    | ok result =>
      have hlater : d.apply draws (.use op) = result.2 := by
        unfold Dashboard.apply
        simp only [hact]
      rw [hlater]
      exact h.act draws hact
  | flush => exact h
  | resolver m => exact h
  | collect => exact h
  | take i latency =>
    show (d.takeAt i latency).RecentBounded
    unfold Dashboard.takeAt
    cases d.inbox[i]? with
    | none => exact h
    | some event => exact deliver ..

end RecentBounded

/-- Whatever happens to a dashboard, it keeps no more latencies than it may. -/
theorem recent_bounded (draws : Nat → Draw) (run : SimRun) (config : Config) (host : String)
    (moves : List DashboardMove) :
    ((new run config host).play draws moves).RecentBounded := by
  have hopened : (new run config host).RecentBounded := Nat.zero_le _
  unfold play
  generalize new run config host = opened at hopened
  induction moves generalizing opened with
  | nil => exact hopened
  | cons m moves ih => exact ih _ (hopened.apply draws m)

/-- **Every percentile is an order statistic** of the latencies kept, whatever they are.

It is found within their sorted list, at a rank that is the first up to zero percent and for a NaN,
and the last from a hundred percent on; so it is the least or the greatest of them there. It depends
on nothing but which latencies there are and how often. The last rank has to be a float itself, which
it always is, since a dashboard never keeps more than a thousand latencies. -/
theorem percentile_is_order_statistic :
    (∀ (draws : Nat → Draw) (run : SimRun) (config : Config) (host : String)
      (moves : List DashboardMove),
      ((new run config host).play draws moves).recent.length ≤ recentLimit) ∧
    ∀ (d : Dashboard) (percent : Float), d.recent ≠ [] →
      cappedRank d.recent percent < d.recent.length ∧
      (sortedLatencies d.recent)[cappedRank d.recent percent]? =
        some (d.latencyPercentile percent) ∧
      OrderStatistic d.recent (cappedRank d.recent percent) (d.latencyPercentile percent) ∧
      (∀ other : Dashboard, other.recent.Perm d.recent →
        other.latencyPercentile percent = d.latencyPercentile percent) ∧
      (percent.isNaN = true ∨ percent ≤ 0 →
        ∀ x ∈ d.recent, (d.latencyPercentile percent).order ≤ x.order) ∧
      (100 ≤ percent → d.recent.length ≤ 2 ^ 53 →
        ∀ x ∈ d.recent, x.order ≤ (d.latencyPercentile percent).order) :=
  ⟨recent_bounded, fun _ percent h => ⟨cappedRank_lt h percent, getElem?_cappedRank h percent,
    orderStatistic_percentile h percent, fun _ hperm => percentile_congr hperm h percent,
    percentile_least h, fun hpercent hmany => percentile_greatest h hmany hpercent⟩⟩

/-- Both zeros, an infinity and a NaN. -/
def fourLatencies : Dashboard :=
  { default with
    recent := [⟨0⟩, ⟨0x7FF8000000000000⟩, ⟨0x8000000000000000⟩, ⟨0x7FF0000000000000⟩] }

theorem mem_fourLatencies {x : Binary64} (h : x ∈ fourLatencies.recent) :
    x = ⟨0⟩ ∨ x = ⟨0x7FF8000000000000⟩ ∨ x = ⟨0x8000000000000000⟩ ∨ x = ⟨0x7FF0000000000000⟩ := by
  simpa [fourLatencies] using h

/-- Below zero percent and for a NaN comes the negative zero, above a hundred percent the NaN. -/
theorem percentile_is_order_statistic_of_four :
    fourLatencies.latencyPercentile (-5) = ⟨0x8000000000000000⟩ ∧
      fourLatencies.latencyPercentile (0 / 0) = ⟨0x8000000000000000⟩ ∧
      fourLatencies.latencyPercentile 250 = ⟨0x7FF8000000000000⟩ := by
  obtain ⟨-, hall⟩ := percentile_is_order_statistic
  have hsome : fourLatencies.recent ≠ [] := List.cons_ne_nil _ _
  have hleast : ∀ percent : Float, percent.isNaN = true ∨ percent ≤ 0 →
      fourLatencies.latencyPercentile percent = ⟨0x8000000000000000⟩ := by
    intro percent hpercent
    obtain ⟨-, -, hstatistic, -, hleast, -⟩ := hall fourLatencies percent hsome
    have hmin := hleast hpercent ⟨0x8000000000000000⟩ (by decide)
    rcases mem_fourLatencies hstatistic.mem with hx | hx | hx | hx
    · exact absurd (hx ▸ hmin) (by decide)
    · exact absurd (hx ▸ hmin) (by decide)
    · exact hx
    · exact absurd (hx ▸ hmin) (by decide)
  refine ⟨hleast _ (.inr (by decide +kernel)), hleast _ (.inl (by decide +kernel)), ?_⟩
  obtain ⟨-, -, hstatistic, -, -, hgreatest⟩ := hall fourLatencies 250 hsome
  have hmax := hgreatest (by decide +kernel) (by decide) ⟨0x7FF8000000000000⟩ (by decide)
  rcases mem_fourLatencies hstatistic.mem with hx | hx | hx | hx
  · exact absurd (hx ▸ hmax) (by decide)
  · exact hx
  · exact absurd (hx ▸ hmax) (by decide)
  · exact absurd (hx ▸ hmax) (by decide)

end Dashboard

end Hedging
