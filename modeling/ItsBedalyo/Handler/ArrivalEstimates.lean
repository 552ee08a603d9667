import ItsBedalyo.Handler.DeliveryCall

/-!
# Estimates of the arrival

`handleCookTimeSet` takes the largest number of the store's `delivery_time_range` for the whole
time, and what is left of it after the store's `cook_time` for the time on the way. Where less than
ten minutes are left it takes fifteen, so that a store with a shorter range can be estimated to be
later. The range is read up to its first NUL.
-/

namespace ItsBedalyo.DeliveryCall

open MaximalRuns

variable {D : Type} [Double D]

/-- For every order of a store with this range and this cook time, the customer is told that the
order arrives in `total` minutes. -/
def Announces (D : Type) [Double D] (range : String) (cook : Option Int32) (cookTime total : ℤ) :
    Prop :=
  ∀ (tables : CallTables D) (order : CalledOrder) (store : CalledStore),
    order ∈ tables.orders → store ∈ tables.stores → store.storeId = order.storeId →
    store.deliveryTimeRange = some range → store.cookTime = cook →
    ∀ (memory : Int32) (text : JsonText D) (storeData : Dto.StoreDataDTO D),
      ∃ ops, (handleCookTimeSet text storeData (.ok ⟨order.orderId, cookTime⟩)).eval
          (tables.answer memory) = (.ok (), ops) ∧
        pushed ops = announcement tables ⟨order.orderId, cookTime⟩ total

/-- Fifteen minutes are taken for the way. -/
def FallsBack (cook : ℤ) (n : ℕ) : Prop := n = 0 ∨ (n : ℤ) - cook < 10

/-- The first range does not fall back while the second leaves ten to fourteen minutes. A NUL that
hides the largest number of the second, so that a smaller one is read, makes it fall back, and the
first falls back or leaves at most fifteen minutes. -/
def InOrder (cook : ℤ) (n₁ n₂ : ℕ) : Prop :=
  ¬(FallsBack cook n₁ ∧ n₂ ≠ 0 ∧ 10 ≤ (n₂ : ℤ) - cook ∧ (n₂ : ℤ) - cook < 15) ∧
    (n₂ < n₁ → FallsBack cook n₂ ∧ (FallsBack cook n₁ ∨ (n₁ : ℤ) - cook ≤ 15))

theorem net_of_fallsBack {cook : ℤ} {n : ℕ} (h : FallsBack cook n) : net cook n = 15 := by
  rw [net]
  rcases h with rfl | h
  · rfl
  · by_cases hpos : (n : ℤ) > 0
    · rw [if_pos hpos, if_pos h]
    · rw [if_neg hpos]
      rfl

theorem net_of_not_fallsBack {cook : ℤ} {n : ℕ} (h : ¬FallsBack cook n) :
    net cook n = (n : ℤ) - cook ∧ 10 ≤ (n : ℤ) - cook ∧ n ≠ 0 := by
  obtain ⟨hzero, hten⟩ := not_or.mp h
  have hpos : (n : ℤ) > 0 := by omega
  rw [net, if_pos hpos, if_neg hten]
  exact ⟨rfl, by omega, hzero⟩

/-- The times on the way are in order. -/
theorem net_le_net_iff (cook : ℤ) (n₁ n₂ : ℕ) : net cook n₁ ≤ net cook n₂ ↔ InOrder cook n₁ n₂ := by
  rw [InOrder]
  by_cases h₁ : FallsBack cook n₁
  · rw [net_of_fallsBack h₁]
    by_cases h₂ : FallsBack cook n₂
    · have hsecond : ¬(n₂ ≠ 0 ∧ 10 ≤ (n₂ : ℤ) - cook ∧ (n₂ : ℤ) - cook < 15) := by
        rcases h₂ with rfl | h₂ <;> omega
      rw [net_of_fallsBack h₂]
      exact iff_of_true le_rfl ⟨fun h => hsecond h.2, fun _ => ⟨h₂, .inl h₁⟩⟩
    · obtain ⟨hnet, hten, hzero⟩ := net_of_not_fallsBack h₂
      have hlt : ¬n₂ < n₁ := by
        intro hlt
        rcases h₁ with rfl | h₁ <;> omega
      rw [hnet]
      constructor
      · exact fun hle => ⟨fun h => by omega, fun h => absurd h hlt⟩
      · rintro ⟨hsecond, -⟩
        by_contra hgt
        exact hsecond ⟨h₁, hzero, hten, by omega⟩
  · obtain ⟨hnet, hten, hzero⟩ := net_of_not_fallsBack h₁
    rw [hnet]
    by_cases h₂ : FallsBack cook n₂
    · rw [net_of_fallsBack h₂]
      constructor
      · exact fun hle => ⟨fun h => h₁ h.1, fun _ => ⟨h₂, .inr hle⟩⟩
      · rintro ⟨-, hcut⟩
        by_contra hgt
        have hlt : n₂ < n₁ := by
          rcases h₂ with rfl | h₂ <;> omega
        rcases (hcut hlt).2 with h | h
        · exact h₁ h
        · omega
    · obtain ⟨hnet₂, -, -⟩ := net_of_not_fallsBack h₂
      rw [hnet₂]
      constructor
      · exact fun hle => ⟨fun h => h₁ h.1, fun hlt => by omega⟩
      · rintro ⟨-, hcut⟩
        by_contra hgt
        exact h₂ (hcut (by omega)).1

/-- The numbers before a NUL are numbers of the range. -/
theorem hasNumber_of_cStr {s : String} {n : ℕ} (h : HasNumber (cStr s) n) : HasNumber s n := by
  obtain ⟨run, hrun, hn⟩ := h
  rw [cStr, String.toList_ofList] at hrun
  refine ⟨run, hrun.of_takeWhile fun c hc => ?_, hn⟩
  have hnul : c = '\x00' := by simpa using hc
  subst hnul
  rfl

theorem fits_cStr {s : String} {m : ℕ} (h : IsLargest s m) (hm : m ≤ 2147483647) :
    Fits (cStr s) :=
  fun n hn => (h.2 n (hasNumber_of_cStr hn)).trans hm

/-- What is announced for a range. -/
theorem announces_net {range : String} (hfits : Fits (cStr range)) (cook : Option Int32)
    (cookTime : ℤ) : Announces D range cook cookTime
      (cookTime + net (cook.getD 30).toInt (largest (cStr range))) := by
  intro tables order store horder hstore hid hrange hcook memory text storeData
  have horder? : tables.order? order.orderId = some order :=
    List.find?_key_eq tables.orderKey horder
  have hstore? : tables.store? order.storeId = some store := by
    rw [← hid]
    exact List.find?_key_eq tables.storeKey hstore
  have htimes : tables.times order.orderId =
      some (some (cStr range), some (cook.getD 30).toInt) := by
    rw [CallTables.times, horder?, Option.bind_some, hstore?, Option.map_some, hrange, hcook,
      Option.getD_some]
  have hnet := netDeliveryTime_of_fits hfits (cook.getD 30).toInt
  rw [← htimes] at hnet
  obtain ⟨ops, heval, hpushed, -⟩ :=
    eval_handleCookTimeSet_ok tables memory text storeData ⟨order.orderId, cookTime⟩ hnet
  exact ⟨ops, heval, hpushed⟩

/-- **Estimates in order.** Of two ranges, each with a largest number that is an `int`, the one with
the smaller largest number has the earlier estimate exactly under `InOrder`. -/
theorem estimate_le_iff (cookTime : ℤ) (cook : Option Int32) {range₁ range₂ : String} {m₁ m₂ : ℕ}
    (h₁ : IsLargest range₁ m₁) (h₂ : IsLargest range₂ m₂) (hle : m₁ ≤ m₂)
    (hint : m₂ ≤ 2147483647) :
    ∃ total₁ total₂, Announces D range₁ cook cookTime total₁ ∧
      Announces D range₂ cook cookTime total₂ ∧
      (total₁ ≤ total₂ ↔
        InOrder (cook.getD 30).toInt (largest (cStr range₁)) (largest (cStr range₂))) := by
  refine ⟨_, _, announces_net (fits_cStr h₁ (hle.trans hint)) cook cookTime,
    announces_net (fits_cStr h₂ hint) cook cookTime, ?_⟩
  rw [← net_le_net_iff]
  exact add_le_add_iff_left cookTime

theorem isLargest_iff {s : String} {n : ℕ} : IsLargest s n ↔
    (∃ run ∈ OrderHandler.digitRuns s, decimal run = n) ∧
      ∀ run ∈ OrderHandler.digitRuns s, decimal run ≤ n := by
  rw [IsLargest]
  simp only [hasNumber_iff]
  exact and_congr Iff.rfl
    ⟨fun h run hrun => h _ ⟨run, hrun, rfl⟩, fun h m ⟨run, hrun, hm⟩ => hm ▸ h run hrun⟩

theorem isLargest_35 : IsLargest "20~35분" 35 := isLargest_iff.mpr (by decide)

theorem isLargest_42 : IsLargest "20~42분" 42 := isLargest_iff.mpr (by decide)

/-- The two ranges of a store that cooks for a quarter of an hour. -/
theorem estimate_le_iff_quarter : ∃ total₁ total₂,
    Announces Float "20~35분" (some 15) 10 total₁ ∧ Announces Float "20~42분" (some 15) 10 total₂ ∧
      (total₁ ≤ total₂ ↔
        InOrder (15 : Int32).toInt (largest (cStr "20~35분")) (largest (cStr "20~42분"))) :=
  estimate_le_iff 10 (some 15) isLargest_35 isLargest_42 (by decide) (by decide)

/-- With a cook time of thirty minutes the range with 35 is later than the one with 42. -/
theorem not_monotone_estimates :
    ¬∀ (cookTime : ℤ) (cook : Option Int32) (range₁ range₂ : String) (m₁ m₂ : ℕ) (t₁ t₂ : ℤ),
      IsLargest range₁ m₁ → IsLargest range₂ m₂ → m₁ ≤ m₂ → m₂ ≤ 2147483647 →
      Announces Float range₁ cook cookTime t₁ → Announces Float range₂ cook cookTime t₂ →
      t₁ ≤ t₂ := by
  intro hmonotone
  have hle := hmonotone 10 (some 30) _ _ 35 42 _ _ isLargest_35 isLargest_42 (by decide) (by decide)
    (announces_net (fits_cStr isLargest_35 (by decide)) (some 30) 10)
    (announces_net (fits_cStr isLargest_42 (by decide)) (some 30) 10)
  exact absurd hle (by decide)

end ItsBedalyo.DeliveryCall
