import ItsBedalyo.Dto.RequestDTO
import ItsBedalyo.Dto.StoreDTO
import ItsBedalyo.Dto.StoreDetailDTO

/-!
# What comes back from the wire

The DTOs whose two conversions are written by hand, and the request for a new order. Reading back
what was written gives the same value, except for the two fields that one of the two directions
forgets: the category of a store, which is written but not read, and the coupon of an order,
which is neither.
-/

namespace ItsBedalyo.Dto

/-- A DTO with both directions. -/
inductive WireDTO (D : Type)
  | signupReq (dto : SignupReqDTO)
  | optionGroup (dto : OptionGroup)
  | menu (dto : MenuDTO)
  | storeData (dto : StoreDataDTO D)
  | menuData (dto : MenuDataDTO D)
  | review (dto : ReviewDTO)
  | resStoreDetail (dto : ResStoreDetailDTO D)
  | reqStoreDetail (dto : ReqStoreDetailDTO)
  | orderCreateReq (dto : OrderCreateReqDTO D)

namespace WireDTO

variable {D : Type} [Double D]

/-- `from_json(to_json(v))` is `v`. -/
def RoundTrips : WireDTO D → Prop
  | signupReq v => SignupReqDTO.fromJson (v.toJson : Json D) = .ok v
  | optionGroup v => OptionGroup.fromJson (v.toJson : Json D) = .ok v
  | menu v => MenuDTO.fromJson (v.toJson : Json D) = .ok v
  | storeData v => StoreDataDTO.fromJson v.toJson = .ok v
  | menuData v => MenuDataDTO.fromJson v.toJson = .ok v
  | review v => ReviewDTO.fromJson (v.toJson : Json D) = .ok v
  | resStoreDetail v => ResStoreDetailDTO.fromJson v.toJson = .ok v
  | reqStoreDetail v => ReqStoreDetailDTO.fromJson (v.toJson : Json D) = .ok v
  | orderCreateReq v => OrderCreateReqDTO.fromJson v.toJson = .ok v

/-- The forgotten fields have the values of a fresh object. -/
def NothingForgotten : WireDTO D → Prop
  | storeData v => v.category = ""
  | resStoreDetail v => v.storeData.category = ""
  | orderCreateReq v => v.couponId = 0
  | _ => True

/-- **What comes back.** A value survives the round trip exactly when it has nothing in the
fields that are forgotten. -/
theorem roundTrips_iff (v : WireDTO D) : v.RoundTrips ↔ v.NothingForgotten := by
  cases v with
  | signupReq v => exact iff_of_true v.fromJson_toJson trivial
  | optionGroup v => exact iff_of_true v.fromJson_toJson trivial
  | menu v => exact iff_of_true v.fromJson_toJson trivial
  | menuData v => exact iff_of_true v.fromJson_toJson trivial
  | review v => exact iff_of_true v.fromJson_toJson trivial
  | reqStoreDetail v => exact iff_of_true v.fromJson_toJson trivial
  | storeData v =>
    rw [RoundTrips, v.fromJson_toJson]
    refine ⟨fun h => ?_, fun h => ?_⟩
    · exact (congrArg StoreDataDTO.category (Except.ok.inj h)).symm
    · rw [← (h : v.category = "")]
  | resStoreDetail v =>
    rw [RoundTrips, v.fromJson_toJson]
    refine ⟨fun h => ?_, fun h => ?_⟩
    · exact (congrArg (fun v => v.storeData.category) (Except.ok.inj h)).symm
    · rw [← (h : v.storeData.category = "")]
  | orderCreateReq v =>
    rw [RoundTrips, v.fromJson_toJson]
    refine ⟨fun h => ?_, fun h => ?_⟩
    · exact (congrArg OrderCreateReqDTO.couponId (Except.ok.inj h)).symm
    · rw [← (h : v.couponId = 0)]

/-- A Korean restaurant, and an order with a coupon. -/
theorem not_roundTrips :
    ¬(storeData { StoreDataDTO.fresh with category := "한식" } : WireDTO Float).RoundTrips ∧
      ¬(orderCreateReq ⟨"hong", 1, 9000, "서울시", 7, [], "", ""⟩ : WireDTO Float).RoundTrips := by
  constructor
  · intro h
    rw [RoundTrips, StoreDataDTO.fromJson_toJson] at h
    exact absurd (congrArg StoreDataDTO.category (Except.ok.inj h)) (by decide)
  · intro h
    rw [RoundTrips, OrderCreateReqDTO.fromJson_toJson] at h
    exact absurd (congrArg OrderCreateReqDTO.couponId (Except.ok.inj h)) (by decide)

end WireDTO

end ItsBedalyo.Dto
