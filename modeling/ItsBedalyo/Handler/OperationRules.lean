import ItsBedalyo.Handler.Operations

/-!
# What the operations of the order handlers do to whoever calls them

A `HandlerSpec` says what operations ask of the caller's local state and what they do to it when
they return and when they throw. The rules below compute the weakest preconditions of handler
code from it, one operation at a time.
-/

namespace ItsBedalyo

/-- What operations ask of the caller's local state and what they do to it when they return and
when they throw. -/
structure HandlerSpec (γ : Type*) where
  pre : γ → Op → Prop
  returns : γ → (o : Op) → o.Res → γ → Prop
  throws : γ → Op → γ → Prop

namespace HandlerSpec

open Interface Handler

variable {γ : Type*}

/-- The interface that is specified. -/
def interface (spec : HandlerSpec γ) : Interface Op.Res String γ where
  pre := spec.pre
  post c
    | o, .ok a, c' => spec.returns c o a c'
    | o, .error _, c' => spec.throws c o c'

variable {spec : HandlerSpec γ} {c : γ}

theorem wp_op {o : Op} {Q : Except String o.Res → γ → Prop} :
    spec.interface.wp (Prog.op o) Q c ↔
      spec.pre c o ∧ (∀ a c', spec.returns c o a c' → Q (.ok a) c') ∧
        ∀ what c', spec.throws c o c' → Q (.error what) c' := by
  refine Interface.wp_op.trans (and_congr_right fun _ => ⟨fun h => ?_, ?_⟩)
  · exact ⟨fun a c' => h (.ok a) c', fun what c' => h (.error what) c'⟩
  · rintro ⟨hok, herror⟩ (what | a) c' hpost
    · exact herror what c' hpost
    · exact hok a c' hpost

/-- An operation that returns no value. -/
theorem wp_op_unit {o : Op} (x : o.Res) (hx : ∀ a : o.Res, a = x)
    {Q : Except String o.Res → γ → Prop} :
    spec.interface.wp (Prog.op o) Q c ↔
      spec.pre c o ∧ (∀ c', spec.returns c o x c' → Q (.ok x) c') ∧
        ∀ what c', spec.throws c o c' → Q (.error what) c' := by
  refine wp_op.trans (and_congr_right' (and_congr_left' ⟨fun h => h x, fun h a => ?_⟩))
  rw [hx a]
  exact h

@[simp] theorem wp_setAutoCommit {on : Bool} {Q : Except String Unit → γ → Prop} :
    spec.interface.wp (setAutoCommit on) Q c ↔ spec.pre c (.setAutoCommit on) ∧
      (∀ c', spec.returns c (.setAutoCommit on) () c' → Q (.ok ()) c') ∧
        ∀ what c', spec.throws c (.setAutoCommit on) c' → Q (.error what) c' :=
  @wp_op_unit _ _ _ (.setAutoCommit on) () (fun _ => rfl) _

@[simp] theorem wp_prepareStatement {Q : Except String Unit → γ → Prop} :
    spec.interface.wp prepareStatement Q c ↔ spec.pre c .prepareStatement ∧
      (∀ c', spec.returns c .prepareStatement () c' → Q (.ok ()) c') ∧
        ∀ what c', spec.throws c .prepareStatement c' → Q (.error what) c' :=
  @wp_op_unit _ _ _ .prepareStatement () (fun _ => rfl) _

@[simp] theorem wp_executeUpdate {stmt : Statement} {Q : Except String ℕ → γ → Prop} :
    spec.interface.wp (executeUpdate stmt) Q c ↔
      spec.pre c (.executeUpdate stmt) ∧
        (∀ (a : ℕ) c', spec.returns c (.executeUpdate stmt) a c' → Q (.ok a) c') ∧
          ∀ what c', spec.throws c (.executeUpdate stmt) c' → Q (.error what) c' :=
  wp_op

@[simp] theorem wp_commit {Q : Except String Unit → γ → Prop} :
    spec.interface.wp commit Q c ↔ spec.pre c .commit ∧
      (∀ c', spec.returns c .commit () c' → Q (.ok ()) c') ∧
        ∀ what c', spec.throws c .commit c' → Q (.error what) c' :=
  @wp_op_unit _ _ _ .commit () (fun _ => rfl) _

@[simp] theorem wp_rollback {Q : Except String Unit → γ → Prop} :
    spec.interface.wp rollback Q c ↔ spec.pre c .rollback ∧
      (∀ c', spec.returns c .rollback () c' → Q (.ok ()) c') ∧
        ∀ what c', spec.throws c .rollback c' → Q (.error what) c' :=
  @wp_op_unit _ _ _ .rollback () (fun _ => rfl) _

@[simp] theorem wp_getCustomerIdByOrderId {orderId : String} {Q : Except String String → γ → Prop} :
    spec.interface.wp (getCustomerIdByOrderId orderId) Q c ↔
      spec.pre c (.query (.getCustomerIdByOrderId orderId)) ∧
        (∀ (a : String) c',
          spec.returns c (.query (.getCustomerIdByOrderId orderId)) a c' → Q (.ok a) c') ∧
        ∀ what c',
          spec.throws c (.query (.getCustomerIdByOrderId orderId)) c' → Q (.error what) c' :=
  wp_op

@[simp] theorem wp_getStoreIdByOrderId {orderId : String} {Q : Except String ℤ → γ → Prop} :
    spec.interface.wp (getStoreIdByOrderId orderId) Q c ↔
      spec.pre c (.query (.getStoreIdByOrderId orderId)) ∧
        (∀ (a : ℤ) c',
          spec.returns c (.query (.getStoreIdByOrderId orderId)) a c' → Q (.ok a) c') ∧
        ∀ what c',
          spec.throws c (.query (.getStoreIdByOrderId orderId)) c' → Q (.error what) c' :=
  wp_op

@[simp] theorem wp_getOwnerIdByStoreId {storeId : ℤ} {Q : Except String String → γ → Prop} :
    spec.interface.wp (getOwnerIdByStoreId storeId) Q c ↔
      spec.pre c (.query (.getOwnerIdByStoreId storeId)) ∧
        (∀ (a : String) c',
          spec.returns c (.query (.getOwnerIdByStoreId storeId)) a c' → Q (.ok a) c') ∧
        ∀ what c',
          spec.throws c (.query (.getOwnerIdByStoreId storeId)) c' → Q (.error what) c' :=
  wp_op

@[simp] theorem wp_getDeliveryFee {storeId : ℤ} {Q : Except String ℤ → γ → Prop} :
    spec.interface.wp (getDeliveryFee storeId) Q c ↔
      spec.pre c (.query (.getDeliveryFee storeId)) ∧
        (∀ (a : ℤ) c',
          spec.returns c (.query (.getDeliveryFee storeId)) a c' → Q (.ok a) c') ∧
        ∀ what c',
          spec.throws c (.query (.getDeliveryFee storeId)) c' → Q (.error what) c' :=
  wp_op

@[simp] theorem wp_getMenuName {menuId : ℤ} {Q : Except String String → γ → Prop} :
    spec.interface.wp (getMenuName menuId) Q c ↔
      spec.pre c (.query (.getMenuName menuId)) ∧
        (∀ (a : String) c',
          spec.returns c (.query (.getMenuName menuId)) a c' → Q (.ok a) c') ∧
        ∀ what c',
          spec.throws c (.query (.getMenuName menuId)) c' → Q (.error what) c' :=
  wp_op

@[simp] theorem wp_getOptionName {menuId optionId : ℤ} {Q : Except String String → γ → Prop} :
    spec.interface.wp (getOptionName menuId optionId) Q c ↔
      spec.pre c (.query (.getOptionName menuId optionId)) ∧
        (∀ (a : String) c',
          spec.returns c (.query (.getOptionName menuId optionId)) a c' → Q (.ok a) c') ∧
        ∀ what c',
          spec.throws c (.query (.getOptionName menuId optionId)) c' → Q (.error what) c' :=
  wp_op

@[simp] theorem wp_localtime {Q : Except String LocalTime → γ → Prop} :
    spec.interface.wp localtime Q c ↔
      spec.pre c .localtime ∧
        (∀ (a : LocalTime) c', spec.returns c .localtime a c' → Q (.ok a) c') ∧
          ∀ what c', spec.throws c .localtime c' → Q (.error what) c' :=
  wp_op

@[simp] theorem wp_rand {Q : Except String ℕ → γ → Prop} :
    spec.interface.wp rand Q c ↔
      spec.pre c .rand ∧
        (∀ (a : ℕ) c', spec.returns c .rand a c' → Q (.ok a) c') ∧
          ∀ what c', spec.throws c .rand c' → Q (.error what) c' :=
  wp_op

@[simp] theorem wp_sendPacket {response : Response} {Q : Except String Unit → γ → Prop} :
    spec.interface.wp (sendPacket response) Q c ↔ spec.pre c (.sendPacket response) ∧
      (∀ c', spec.returns c (.sendPacket response) () c' → Q (.ok ()) c') ∧
        ∀ what c', spec.throws c (.sendPacket response) c' → Q (.error what) c' :=
  @wp_op_unit _ _ _ (.sendPacket response) () (fun _ => rfl) _

@[simp] theorem wp_sendToUser {userId : String} {notice : Notice}
    {Q : Except String Unit → γ → Prop} :
    spec.interface.wp (sendToUser userId notice) Q c ↔ spec.pre c (.sendToUser userId notice) ∧
      (∀ c', spec.returns c (.sendToUser userId notice) () c' → Q (.ok ()) c') ∧
        ∀ what c', spec.throws c (.sendToUser userId notice) c' → Q (.error what) c' :=
  @wp_op_unit _ _ _ (.sendToUser userId notice) () (fun _ => rfl) _

@[simp] theorem wp_throwIf {p : Prop} [Decidable p] {what : String}
    {Q : Except String Unit → γ → Prop} :
    spec.interface.wp (throwIf p what) Q c ↔ (p → Q (.error what) c) ∧ (¬p → Q (.ok ()) c) :=
  wp_ite

@[simp] theorem wp_notify {userId : String} {notice : Notice}
    {Q : Except String Unit → γ → Prop} :
    spec.interface.wp (notify userId notice) Q c ↔
      (userId ≠ "" → spec.interface.wp (sendToUser userId notice) Q c) ∧
        (¬userId ≠ "" → Q (.ok ()) c) :=
  wp_ite

end HandlerSpec

end ItsBedalyo
