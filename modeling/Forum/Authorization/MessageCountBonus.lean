import Mathlib.Data.Rat.Floor
import Mathlib.Order.Interval.Set.UnorderedInterval
import Forum.Authorization.PrivilegeResolution

/-!
# The bonus for messages

What a registered user may do without any grant grows with the number of its messages: by a configured
multiple of it, up to a configured maximum. The multiple is a product of floating point numbers that is cast to
16 bits before it is compared to the maximum, and what the cast makes of a product that does not fit is left
open by the language: it is a parameter here. The product is taken as an exact rational.
-/

namespace Forum.Authorization

open Forum.Library Forum.Entities

/-- What the configuration says about users without grants. -/
structure BonusConfiguration where
  defaultPrivilegeValueForLoggedInUser : PrivilegeValueIntType
  messageCountMultiplierPrivilegeBonus : ℚ
  maxMessageCountPrivilegeBonus : PrivilegeValueIntType

/-- Is the value in the range of privileges? -/
def InPrivilegeRange (value : PrivilegeValueIntType) : Prop := MinPrivilegeValue ≤ value ∧ value ≤ MaxPrivilegeValue

/-- The values are privileges, and more messages are not a malus. -/
structure BonusConfiguration.Valid (config : BonusConfiguration) : Prop where
  default : InPrivilegeRange config.defaultPrivilegeValueForLoggedInUser
  multiplier : 0 ≤ config.messageCountMultiplierPrivilegeBonus
  maximum : InPrivilegeRange config.maxMessageCountPrivilegeBonus

namespace BonusConfiguration

variable (config : BonusConfiguration) (outOfRange : ℚ → PrivilegeValueIntType)

/-- The product before it is cast, without its fraction. -/
def product (messageCount : ℕ) : ℤ := ⌊config.messageCountMultiplierPrivilegeBonus * messageCount⌋

/-- The cast of the product to 16 bits. -/
def castProduct (messageCount : ℕ) : PrivilegeValueIntType :=
  if config.product messageCount < 2 ^ 15 then Int16.ofInt (config.product messageCount)
  else outOfRange (config.messageCountMultiplierPrivilegeBonus * messageCount)

/-- A store of grants under the configuration. -/
def configure (g : GrantedPrivilegeStore) : GrantedPrivilegeStore :=
  { g with
    defaultPrivilegeValueForLoggedInUser := config.defaultPrivilegeValueForLoggedInUser
    messageCountPrivilegeBonus := config.castProduct outOfRange
    maxMessageCountPrivilegeBonus := config.maxMessageCountPrivilegeBonus }

/-- The default level of a user with this many messages. -/
def level (messageCount : ℕ) : PrivilegeValueIntType :=
  config.defaultPrivilegeValueForLoggedInUser +
    min config.maxMessageCountPrivilegeBonus (config.castProduct outOfRange messageCount)

theorem defaultPositiveValue_configure (g : GrantedPrivilegeStore) (s : Store) (user : IdType) :
    (config.configure outOfRange g).defaultPositiveValue s user = config.level outOfRange (s.userMessages user).card :=
  rfl

/-- The level as it is meant, without limits to numbers. -/
def exactLevel (messageCount : ℕ) : ℤ :=
  config.defaultPrivilegeValueForLoggedInUser.toInt +
    min config.maxMessageCountPrivilegeBonus.toInt (config.product messageCount)

variable {config}

theorem product_nonneg (h : config.Valid) (messageCount : ℕ) : 0 ≤ config.product messageCount :=
  Int.floor_nonneg.2 (mul_nonneg h.multiplier (Nat.cast_nonneg _))

theorem product_mono (h : config.Valid) {a b : ℕ} (hab : a ≤ b) : config.product a ≤ config.product b :=
  Int.floor_mono (mul_le_mul_of_nonneg_left (Nat.cast_le.2 hab) h.multiplier)

/-- A product that fits is cast to itself. -/
theorem toInt_castProduct (h : config.Valid) {messageCount : ℕ} (hfits : config.product messageCount < 2 ^ 15) :
    (config.castProduct outOfRange messageCount).toInt = config.product messageCount := by
  have hnonneg := product_nonneg h messageCount
  rw [castProduct, if_pos hfits, Int16.toInt_ofInt_of_le (by omega) hfits]

theorem toInt_min (a b : Int16) : (min a b).toInt = min a.toInt b.toInt :=
  Monotone.map_min fun _ _ => Int16.toInt_le_toInt_of_le

theorem toInt_level_eq (messageCount : ℕ) :
    (config.level outOfRange messageCount).toInt =
      (config.defaultPrivilegeValueForLoggedInUser.toInt + min config.maxMessageCountPrivilegeBonus.toInt
        (config.castProduct outOfRange messageCount).toInt).bmod (2 ^ 16) := by
  rw [level, Int16.toInt_add, toInt_min]

/-- When product and sum fit, the level is the one that is meant. -/
theorem toInt_level (h : config.Valid) {messageCount : ℕ} (hfits : config.product messageCount < 2 ^ 15)
    (hlow : -2 ^ 15 ≤ config.exactLevel messageCount) (hhigh : config.exactLevel messageCount < 2 ^ 15) :
    (config.level outOfRange messageCount).toInt = config.exactLevel messageCount := by
  unfold exactLevel at hlow hhigh ⊢
  rw [toInt_level_eq, toInt_castProduct outOfRange h hfits, Int.bmod_eq_of_le (by omega) (by omega)]

theorem mem_range {value : PrivilegeValueIntType} (h : InPrivilegeRange value) :
    -32000 ≤ value.toInt ∧ value.toInt ≤ 32000 :=
  ⟨Int16.toInt_le_toInt_of_le h.1, Int16.toInt_le_toInt_of_le h.2⟩

end BonusConfiguration

open BonusConfiguration

/-- The bonus for `a` messages and for at least as many, `b`, as it is meant to be. -/
structure BonusSound (config : BonusConfiguration) (outOfRange : ℚ → PrivilegeValueIntType) (a b : ℕ) : Prop where
  /-- More messages do not lower the level. -/
  monotone : (config.level outOfRange a).toInt ≤ (config.level outOfRange b).toInt
  /-- The level is between the one without bonus and the one with the greatest bonus. -/
  between : (config.level outOfRange b).toInt ∈
    Set.uIcc config.defaultPrivilegeValueForLoggedInUser.toInt
      (config.defaultPrivilegeValueForLoggedInUser.toInt + config.maxMessageCountPrivilegeBonus.toInt)
  /-- Whatever the user is granted, sums and comparisons are those of integers. -/
  exact : ∀ (g : GrantedPrivilegeStore) (r : RequiredPrivileges) (s : Store) (user : IdType) (now : Timestamp)
    (tags : IdType → List IdType) (query : PrivilegeQuery) (P N R : PrivilegeValueIntType),
    (∀ collection, ∀ entry ∈ g.entries collection, InPrivilegeRange entry.privilegeValue) →
    user ≠ 0 → (s.userMessages user).card = b → ListsLevels s tags query →
    ResolvesTo (config.configure outOfRange g) r s user now query P N R →
    ((config.configure outOfRange g).isAllowed r s tags user now query).map Int16.toInt =
      if R.toInt ≤ P.toInt + N.toInt then some (P.toInt + N.toInt) else none

section

variable {config : BonusConfiguration} {outOfRange : ℚ → PrivilegeValueIntType}

/-- An answer is exact when its sum is not below the range. -/
theorem map_toInt_isAllowed {g : GrantedPrivilegeStore} {r : RequiredPrivileges} {s : Store} {user : IdType}
    {now : Timestamp} {tags : IdType → List IdType} {query : PrivilegeQuery} {P N R : PrivilegeValueIntType}
    (h : ResolvesTo g r s user now query P N R) (hlists : ListsLevels s tags query) (hsum : -2 ^ 15 ≤ P.toInt + N.toInt) :
    (g.isAllowed r s tags user now query).map Int16.toInt =
      if R.toInt ≤ P.toInt + N.toInt then some (P.toInt + N.toInt) else none := by
  have hadd := Int16.toInt_add_of_nonpos (a := P) h.negative_nonpos
  rw [if_pos hsum] at hadd
  rw [h.isAllowed hlists, ← hadd]
  simp only [← Int16.le_iff_toInt_le]
  split_ifs <;> rfl

/-- The least that is granted is in the range of privileges. -/
theorem negative_ge {g : GrantedPrivilegeStore} {r : RequiredPrivileges} {s : Store} {user : IdType} {now : Timestamp}
    {query : PrivilegeQuery} {P N R : PrivilegeValueIntType} (h : ResolvesTo g r s user now query P N R)
    (hg : ∀ collection, ∀ entry ∈ g.entries collection, InPrivilegeRange entry.privilegeValue) : -32000 ≤ N.toInt := by
  rcases h.negative.1 with rfl | ⟨⟨level, -, -, entry, hentry, -, -, -, rfl⟩, -⟩
  · decide
  · exact (mem_range (hg _ entry hentry)).1

/-- A user with one grant of the least value, and a question about a privilege that is not required. -/
theorem exists_resolvesTo_least (config : BonusConfiguration) (outOfRange : ℚ → PrivilegeValueIntType) (b : ℕ) :
    ∃ (g : GrantedPrivilegeStore) (s : Store),
      (∀ collection, ∀ entry ∈ g.entries collection, InPrivilegeRange entry.privilegeValue) ∧
        (s.userMessages 1).card = b ∧ ListsLevels s (fun _ => []) (.forumWide .addUser) ∧
        ResolvesTo (config.configure outOfRange g) {} s 1 0 (.forumWide .addUser) (config.level outOfRange b) (-32000) 0 := by
  let g : GrantedPrivilegeStore := { forumWideSpecificPrivileges := [⟨1, 0, -32000, 0, 0, by decide⟩] }
  let s : Store := { userMessages := fun _ => Finset.range b }
  have hcard : (s.userMessages 1).card = b := Finset.card_range b
  have hgrants : grants (config.configure outOfRange g) s 1 0 (.forumWide .addUser) = {-32000} := by
    ext value
    constructor
    · rintro ⟨level, hlevel, -, entry, hentry, -, -, -, rfl⟩
      cases hlevel
      obtain rfl := List.mem_singleton.1 hentry
      rfl
    · rintro rfl
      exact ⟨.forumWide, .forumWide, by decide, _, List.mem_singleton.2 rfl, rfl, rfl, by decide, rfl⟩
  refine ⟨g, s, fun collection entry hentry => ?_, hcard, ⟨fun _ _ => by simp [s], fun _ _ heq => nomatch heq⟩, ?_, ?_, ?_⟩
  · cases collection <;> simp [g, GrantedPrivilegeStore.entries] at hentry
    subst hentry
    exact ⟨by decide, by decide⟩
  · have hdefault : defaultLevel (config.configure outOfRange g) s 1 = config.level outOfRange b := by
      rw [defaultLevel, if_neg (by decide), defaultPositiveValue_configure, hcard]
    have hnone : ({-32000} : Set PrivilegeValueIntType) ∩ Set.Ioi 0 = ∅ := by
      ext value
      simp only [Set.mem_inter_iff, Set.mem_singleton_iff, Set.mem_Ioi, Set.mem_empty_iff_false, iff_false]
      rintro ⟨rfl, hpos⟩
      exact absurd hpos (by decide)
    rw [hgrants, hdefault, hnone]
    exact ⟨Set.mem_insert _ _, by simp [upperBounds]⟩
  · have hone : ({-32000} : Set PrivilegeValueIntType) ∩ Set.Iio 0 = {-32000} :=
      Set.inter_eq_left.2 fun value hvalue => hvalue ▸ (by decide : (-32000 : PrivilegeValueIntType) < 0)
    rw [hgrants, hone]
    refine ⟨Set.mem_insert_of_mem _ rfl, ?_⟩
    rintro value (rfl | rfl) <;> decide
  · exact ⟨none, rfl, rfl⟩

/-- When the product does not fit, the cast can make of it what takes the level out of its bounds. -/
theorem product_lt_of_between (h : config.Valid) {b : ℕ}
    (hbetween : ∀ outOfRange : ℚ → PrivilegeValueIntType, (config.level outOfRange b).toInt ∈
      Set.uIcc config.defaultPrivilegeValueForLoggedInUser.toInt
        (config.defaultPrivilegeValueForLoggedInUser.toInt + config.maxMessageCountPrivilegeBonus.toInt)) :
    config.product b < 2 ^ 15 := by
  by_contra hfits
  obtain ⟨hD, hD'⟩ := mem_range h.default
  obtain ⟨hM, hM'⟩ := mem_range h.maximum
  have hlevel : ∀ value : PrivilegeValueIntType, (config.level (fun _ => value) b).toInt =
      (config.defaultPrivilegeValueForLoggedInUser.toInt +
        min config.maxMessageCountPrivilegeBonus.toInt value.toInt).bmod (2 ^ 16) := fun value => by
    rw [toInt_level_eq, castProduct, if_neg hfits]
  by_cases hbonus : 0 ≤ config.maxMessageCountPrivilegeBonus.toInt
  · have hlow := hbetween fun _ => -1
    rw [hlevel, show (-1 : PrivilegeValueIntType).toInt = -1 from rfl, Set.uIcc_of_le (by omega), Set.mem_Icc,
      Int.bmod_eq_of_le (by omega) (by omega)] at hlow
    omega
  · have hlow := hbetween fun _ => -32768
    rw [hlevel, show (-32768 : PrivilegeValueIntType).toInt = -32768 from rfl, Set.uIcc_of_ge (by omega), Set.mem_Icc,
      Int.bmod_def] at hlow
    split_ifs at hlow <;> omega

/-- When the sum does not fit, the level that is stored is out of its bounds. -/
theorem exactLevel_range_of_between (h : config.Valid) {b : ℕ} (hfits : config.product b < 2 ^ 15)
    (hbetween : (config.level outOfRange b).toInt ∈
      Set.uIcc config.defaultPrivilegeValueForLoggedInUser.toInt
        (config.defaultPrivilegeValueForLoggedInUser.toInt + config.maxMessageCountPrivilegeBonus.toInt)) :
    -2 ^ 15 ≤ config.exactLevel b ∧ config.exactLevel b < 2 ^ 15 := by
  obtain ⟨hD, hD'⟩ := mem_range h.default
  obtain ⟨hM, hM'⟩ := mem_range h.maximum
  have hproduct := product_nonneg h b
  rw [toInt_level_eq, toInt_castProduct outOfRange h hfits, Set.mem_uIcc, Int.bmod_def] at hbetween
  unfold exactLevel
  split_ifs at hbetween <;> omega

/-- Whatever is made of products that do not fit, the bonus is sound exactly when the product for `b` messages fits,
and the level with it leaves room for the least grant. -/
theorem bonusSound_iff (h : config.Valid) {a b : ℕ} (hab : a ≤ b) :
    (∀ outOfRange, BonusSound config outOfRange a b) ↔
      config.product b < 2 ^ 15 ∧ -768 ≤ config.exactLevel b ∧ config.exactLevel b < 2 ^ 15 := by
  constructor
  · intro hsound
    have hfits := product_lt_of_between h fun outOfRange => (hsound outOfRange).between
    obtain ⟨hlow, hhigh⟩ := exactLevel_range_of_between h hfits (hsound fun _ => 0).between
    refine ⟨hfits, ?_, hhigh⟩
    by_contra hleast
    obtain ⟨g, s, hg, hcard, hlists, hresolves⟩ := exists_resolvesTo_least config (fun _ => 0) b
    have hexact := (hsound fun _ => 0).exact g {} s 1 0 _ _ _ _ _ hg (by decide) hcard hlists hresolves
    have hlevel := toInt_level (fun _ => 0) h hfits hlow hhigh
    have hsum := (hresolves.isSome_isAllowed_iff hlists).2 (by
      rw [hlevel, show (-32000 : PrivilegeValueIntType).toInt = -32000 from rfl,
        show (0 : PrivilegeValueIntType).toInt = 0 from rfl, if_neg (by omega)]
      omega)
    rw [hlevel, show (-32000 : PrivilegeValueIntType).toInt = -32000 from rfl,
      show (0 : PrivilegeValueIntType).toInt = 0 from rfl, if_neg (by omega), Option.map_eq_none_iff] at hexact
    rw [hexact] at hsum
    exact absurd hsum (by decide)
  · rintro ⟨hfits, hlow, hhigh⟩ outOfRange
    obtain ⟨hD, hD'⟩ := mem_range h.default
    obtain ⟨hM, hM'⟩ := mem_range h.maximum
    have hproduct := product_nonneg h a
    have hproducts := product_mono h hab
    have hlevelB := toInt_level outOfRange h hfits (by omega) hhigh
    have hlevelA := toInt_level outOfRange h (hproducts.trans_lt hfits) (by unfold exactLevel at *; omega)
      (by unfold exactLevel at *; omega)
    refine ⟨?_, ?_, fun g r s user now tags query P N R hg huser hcard hlists hresolves => ?_⟩
    · rw [hlevelA, hlevelB]
      unfold exactLevel
      omega
    · rw [hlevelB, Set.mem_uIcc]
      unfold exactLevel
      omega
    · refine map_toInt_isAllowed hresolves hlists ?_
      have hN := negative_ge hresolves hg
      have hP : config.level outOfRange b ≤ P := by
        have hdefault := hresolves.positive.2 (Set.mem_insert _ _)
        rwa [defaultLevel, if_neg (by simpa [isAnonymousUserId] using huser), defaultPositiveValue_configure, hcard]
          at hdefault
      have hP' := Int16.toInt_le_toInt_of_le hP
      omega

end

/-- Half a level more for each message, up to a hundred. -/
def halfLevelPerMessage : BonusConfiguration where
  defaultPrivilegeValueForLoggedInUser := 1
  messageCountMultiplierPrivilegeBonus := 1 / 2
  maxMessageCountPrivilegeBonus := 100

theorem halfLevelPerMessage_valid : halfLevelPerMessage.Valid :=
  ⟨⟨by decide, by decide⟩, by norm_num [halfLevelPerMessage], ⟨by decide, by decide⟩⟩

theorem bonusSound_halfLevelPerMessage : BonusSound halfLevelPerMessage (fun value => Int16.ofInt ⌊value⌋) 2 10 :=
  (bonusSound_iff halfLevelPerMessage_valid (by decide)).2 ⟨by decide +kernel, by decide +kernel, by decide +kernel⟩ _

/-- With a level for each message, the level of a user with 32768 messages is below the one of a user without any,
when the cast wraps around. -/
theorem not_bonusSound_levelPerMessage :
    ∃ config : BonusConfiguration, config.Valid ∧
      ¬ ∀ outOfRange a b, a ≤ b → BonusSound config outOfRange a b := by
  refine ⟨{ halfLevelPerMessage with messageCountMultiplierPrivilegeBonus := 1 }, ⟨⟨by decide, by decide⟩, by norm_num,
    ⟨by decide, by decide⟩⟩, fun hsound => ?_⟩
  have hmonotone := (hsound (fun value => Int16.ofInt ⌊value⌋) 0 32768 (by decide)).monotone
  revert hmonotone
  decide +kernel

end Forum.Authorization
