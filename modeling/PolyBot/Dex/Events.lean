import PolyBot.Lib.Machine
import PolyBot.Primitives

/-!
# Pool events

A log as it comes from the chain, its position in the canonical order, and the pool event it decodes
to.  The topics are the `keccak256` values of the event signatures that the docstrings name.
-/

namespace PolyBot.Dex

/-- Where a log stands: block, transaction in it, log in the block. -/
structure LogPosition where
  blockNumber : Nat
  transactionIndex : Nat
  logIndex : Nat
  deriving DecidableEq

namespace LogPosition

/-- The lexicographic order that the original derives. -/
instance : LT LogPosition where
  lt a b := a.blockNumber < b.blockNumber ∨ a.blockNumber = b.blockNumber ∧
    (a.transactionIndex < b.transactionIndex ∨ a.transactionIndex = b.transactionIndex ∧
      a.logIndex < b.logIndex)

instance (a b : LogPosition) : Decidable (a < b) :=
  inferInstanceAs (Decidable (_ ∨ _ ∧ (_ ∨ _ ∧ _)))

variable {a b : LogPosition}

theorem lt_def : a < b ↔
    a.blockNumber < b.blockNumber ∨ a.blockNumber = b.blockNumber ∧
      (a.transactionIndex < b.transactionIndex ∨ a.transactionIndex = b.transactionIndex ∧
        a.logIndex < b.logIndex) :=
  Iff.rfl

theorem lt_irrefl (a : LogPosition) : ¬a < a := by
  rw [lt_def]
  omega

theorem lt_trans {c : LogPosition} (ab : a < b) (bc : b < c) : a < c := by
  rw [lt_def] at *
  omega

theorem lt_asymm (ab : a < b) : ¬b < a := fun ba => lt_irrefl a (lt_trans ab ba)

end LogPosition

structure ChainLog where
  address : Address
  topics : List B256
  data : List UInt8
  blockNumber : Nat
  blockHash : B256
  transactionIndex : Nat
  logIndex : Nat
  removed : Bool
  deriving DecidableEq

def ChainLog.position (log : ChainLog) : LogPosition :=
  ⟨log.blockNumber, log.transactionIndex, log.logIndex⟩

/-- Where a pool's events are found: its own address, or its identifier in the V4 manager. -/
inductive PoolLocator
  | v3 (address : Address)
  | pancakeV3 (address : Address)
  | camelotV3 (address : Address)
  | lynexAlgebraV19 (address : Address)
  | v4 (poolId : B256)
  deriving DecidableEq

/-- The pools whose fee follows the market. -/
def PoolLocator.isAdaptive : PoolLocator → Bool
  | v3 _ => false
  | pancakeV3 _ => false
  | camelotV3 _ => true
  | lynexAlgebraV19 _ => true
  | v4 _ => false

def PoolLocator.isLynex : PoolLocator → Bool
  | lynexAlgebraV19 _ => true
  | _ => false

inductive PoolUpdate
  | swap (sqrtPriceX96 : Nat) (tick : Int) (liquidity : Nat) (feePips : Option Nat)
  | liquidity (tickLower tickUpper delta : Int)
  | fee (zeroForOne oneForZero : Nat)
  | tickSpacing (value : Int)
  | incentive (address : Address)
  deriving DecidableEq

def PoolUpdate.isSwap : PoolUpdate → Bool
  | swap _ _ _ _ => true
  | _ => false

structure DecodedPoolEvent where
  locator : PoolLocator
  update : PoolUpdate
  deriving DecidableEq

inductive PoolEventKind
  | swap
  | liquidityAdded
  | liquidityRemoved
  | liquidityPoke
  | fee
  | tickSpacing
  | incentive
  deriving DecidableEq

def DecodedPoolEvent.kind (event : DecodedPoolEvent) : PoolEventKind :=
  match event.update with
  | .swap _ _ _ _ => .swap
  | .liquidity _ _ delta =>
    if 0 < delta then .liquidityAdded else if delta < 0 then .liquidityRemoved else .liquidityPoke
  | .fee _ _ => .fee
  | .tickSpacing _ => .tickSpacing
  | .incentive _ => .incentive

/-! ## Topics -/

/-- `Swap(address,address,int256,int256,uint160,uint128,int24)`. -/
def v3SwapTopic : B256 := 0xc42079f94a6350d7e6235f29174924f928cc2ac818eb64fed8004e115fbcca67

/-- `Swap(address,address,int256,int256,uint160,uint128,int24,uint128,uint128)`. -/
def pancakeV3SwapTopic : B256 := 0x19b47279256b2a23a1665c810c8d55a1758940ee09377d4f8d26497a3577dc83

/-- `Mint(address,address,int24,int24,uint128,uint256,uint256)`. -/
def v3MintTopic : B256 := 0x7a53080ba414158be7ec69b987b5fb7d07dee101fe85488f0853ae16239d0bde

/-- `Burn(address,int24,int24,uint128,uint256,uint256)`. -/
def v3BurnTopic : B256 := 0x0c396cd989a39f4459b5fa1aed6a9a8dcdbc45908acfd67e028cd568da98982c

/-- `Swap(bytes32,address,int128,int128,uint160,uint128,int24,uint24)`. -/
def v4SwapTopic : B256 := 0x40e9cecb9f5f1f1c5b9c97dec2917b7ee92e57ba5563708daca94dd84ad7112f

/-- `ModifyLiquidity(bytes32,address,int24,int24,int256,bytes32)`. -/
def v4ModifyLiquidityTopic : B256 :=
  0xf208f4912782fd25c7f114ca3723a2d5dd6f3bcc3ac8db5af63baa85f711d5ec

/-- `Fee(uint16,uint16)`. -/
def camelotFeeTopic : B256 := 0x8a89de70856bccec096661388f305b9a75f5f65cb0d8a0e1e803c39dabedb57f

/-- `Fee(uint16)`. -/
def lynexAlgebraV19FeeTopic : B256 :=
  0x598b9f043c813aa6be3426ca60d1c65d17256312890be5118dab55b0775ebe2a

/-- `TickSpacing(int24)`. -/
def camelotTickSpacingTopic : B256 :=
  0x01413b1d5d4c359e9a0daa7909ecda165f6e8c51fe2ff529d74b22a5a7c02645

/-- `Incentive(address)`. -/
def camelotIncentiveTopic : B256 :=
  0x915c5369e6580733735d1c2e30ca20dcaa395697a041033c9f35f80f53525e84

/-! ## Words of the event data -/

/-- `U256::from_be_slice`. -/
def fromBeSlice (bytes : List UInt8) : Nat :=
  bytes.foldl (fun value byte => value * 256 + byte.toNat) 0

/-- The two's-complement integer of `w` bits in the low bits of `value`. -/
def signedLow (w value : Nat) : Int :=
  if value % 2 ^ w < 2 ^ (w - 1) then (value % 2 ^ w : Nat) else (value % 2 ^ w : Nat) - (2 : Int) ^ w

section Words

variable (data : List UInt8) (index : Nat)

def decodeU256 : Except String Nat := do
  require (index * 32 + 32 ≤ data.length) s!"event data is missing word {index}"
  return fromBeSlice ((data.drop (index * 32)).take 32)

def decodeU128 : Except String Nat := do
  let value ← decodeU256 data index
  orError (checkedNat 128 value) s!"event word {index} does not fit uint128"

def decodeU16 : Except String Nat := do
  let value ← decodeU256 data index
  orError (checkedNat 16 value) s!"event word {index} does not fit uint16"

def decodeU24 : Except String Nat := do
  let value ← decodeU256 data index
  return value % 2 ^ 24

def decodeI24 : Except String Int := do
  let value ← decodeU256 data index
  return signedLow 24 value

def decodeTopicI24 (topic : B256) : Int :=
  signedLow 24 topic.toNat

def decodeI256AsI128 : Except String Int := do
  let word ← decodeU256 data index
  let value := signedLow 128 word
  require (word / 2 ^ 128 = if value < 0 then 2 ^ 128 - 1 else 0)
    s!"event word {index} does not fit int128"
  return value

end Words

/-- The two signed amounts of an Algebra Swap whose data length has been checked. -/
def decodeCamelotV3SwapAmountsAfterEventValidation (log : ChainLog) : Int × Int :=
  (signedLow 256 (fromBeSlice (log.data.take 32)),
    signedLow 256 (fromBeSlice ((log.data.drop 32).take 32)))

/-- The word that a contract encodes an integer as. -/
def abiWord (value : Int) : List UInt8 :=
  (List.range 32).map fun i => UInt8.ofNat ((value % 2 ^ 256).toNat / 256 ^ (31 - i) % 256)

/-! ## Events -/

/-- The checks on the number of topics and of data bytes. -/
def requireShape (log : ChainLog) (topics bytes : Nat) (topicError dataError : String) :
    Except String Unit := do
  require (log.topics.length = topics) topicError
  require (log.data.length = bytes) dataError

/-- The head words that every Swap event has in the same places. -/
def decodeSwapHead (log : ChainLog) (feePips : Option Nat) : Except String PoolUpdate := do
  let sqrtPriceX96 ← decodeU256 log.data 2
  let liquidity ← decodeU128 log.data 3
  let tick ← decodeI24 log.data 4
  return .swap sqrtPriceX96 tick liquidity feePips

/-- The hint names `address` as an adaptive pool. -/
def isAdaptiveHint (locatorHint : Option PoolLocator) (address : Address) : Bool :=
  locatorHint = some (.camelotV3 address) ∨ locatorHint = some (.lynexAlgebraV19 address)

/-- The pool of a V3-style liquidity event. -/
def routedV3Locator (address : Address) (locatorHint : Option PoolLocator) :
    Except String PoolLocator := do
  let locator := locatorHint.getD (.v3 address)
  require (locator = .v3 address ∨ locator = .pancakeV3 address ∨ locator = .camelotV3 address ∨
      locator = .lynexAlgebraV19 address)
    "V3 liquidity event does not match its routed pool"
  return locator

section Decoders

variable (log : ChainLog) (locatorHint : Option PoolLocator)

/-- A Swap under the V3 topic: of the adaptive pool that the hint names, or of a V3 pool. -/
def decodeV3Swap : Except String DecodedPoolEvent :=
  if isAdaptiveHint locatorHint log.address then do
    requireShape log 3 (5 * 32) "invalid Algebra Swap topic count" "invalid Algebra Swap data length"
    let update ← decodeSwapHead log none
    return ⟨locatorHint.getD (.v3 log.address), update⟩
  else do
    require (locatorHint = none ∨ locatorHint = some (.v3 log.address))
      "Uniswap V3 Swap topic does not match its routed pool provider"
    requireShape log 3 (5 * 32) "invalid V3 Swap topic count" "invalid V3 Swap data length"
    let update ← decodeSwapHead log none
    return ⟨.v3 log.address, update⟩

def decodePancakeV3Swap : Except String DecodedPoolEvent := do
  require (locatorHint = none ∨ locatorHint = some (.pancakeV3 log.address))
    "PancakeSwap V3 Swap topic does not match its routed pool provider"
  requireShape log 3 (7 * 32) "invalid Pancake V3 Swap topic count"
    "invalid Pancake V3 Swap data length"
  let update ← decodeSwapHead log none
  return ⟨.pancakeV3 log.address, update⟩

def decodeV3Mint : Except String DecodedPoolEvent := do
  requireShape log 4 (4 * 32) "invalid V3 Mint topic count" "invalid V3 Mint data length"
  let amount ← decodeU128 log.data 1
  let locator ← routedV3Locator log.address locatorHint
  let delta ← orError (checkedInt 128 amount) "V3 Mint liquidity exceeds int128"
  return ⟨locator, .liquidity (decodeTopicI24 (log.topics.getD 2 0))
    (decodeTopicI24 (log.topics.getD 3 0)) delta⟩

def decodeV3Burn : Except String DecodedPoolEvent := do
  requireShape log 4 (3 * 32) "invalid V3 Burn topic count" "invalid V3 Burn data length"
  let amount ← decodeU128 log.data 0
  let amount ← orError (checkedInt 128 amount) "V3 Burn liquidity exceeds int128"
  let locator ← routedV3Locator log.address locatorHint
  let delta ← orError (checkedInt 128 (-amount)) "V3 Burn liquidity overflow"
  return ⟨locator, .liquidity (decodeTopicI24 (log.topics.getD 2 0))
    (decodeTopicI24 (log.topics.getD 3 0)) delta⟩

def decodeV4Swap : Except String DecodedPoolEvent := do
  requireShape log 3 (6 * 32) "invalid V4 Swap topic count" "invalid V4 Swap data length"
  let feePips ← decodeU24 log.data 5
  let update ← decodeSwapHead log (some feePips)
  return ⟨.v4 (log.topics.getD 1 0), update⟩

def decodeV4ModifyLiquidity : Except String DecodedPoolEvent := do
  requireShape log 3 (4 * 32) "invalid V4 ModifyLiquidity topic count"
    "invalid V4 ModifyLiquidity data length"
  let tickLower ← decodeI24 log.data 0
  let tickUpper ← decodeI24 log.data 1
  let delta ← decodeI256AsI128 log.data 2
  return ⟨.v4 (log.topics.getD 1 0), .liquidity tickLower tickUpper delta⟩

def decodeCamelotFee : Except String DecodedPoolEvent := do
  require (locatorHint = some (.camelotV3 log.address))
    "Camelot Fee event lacks Camelot provider routing"
  requireShape log 1 (2 * 32) "invalid Camelot Fee topic count" "invalid Camelot Fee data length"
  let zeroForOne ← decodeU16 log.data 0
  let oneForZero ← decodeU16 log.data 1
  return ⟨.camelotV3 log.address, .fee zeroForOne oneForZero⟩

def decodeLynexFee : Except String DecodedPoolEvent := do
  require (locatorHint = some (.lynexAlgebraV19 log.address))
    "Lynex Fee event lacks Lynex Algebra V1.9 provider routing"
  requireShape log 1 32 "invalid Lynex Fee topic count" "invalid Lynex Fee data length"
  let fee ← decodeU16 log.data 0
  return ⟨.lynexAlgebraV19 log.address, .fee fee fee⟩

def decodeTickSpacing : Except String DecodedPoolEvent := do
  require (isAdaptiveHint locatorHint log.address = true)
    "Algebra TickSpacing event lacks adaptive provider routing"
  requireShape log 1 32 "invalid Camelot TickSpacing topic count"
    "invalid Camelot TickSpacing data length"
  let value ← decodeI24 log.data 0
  return ⟨locatorHint.getD (.v3 log.address), .tickSpacing value⟩

def decodeIncentive : Except String DecodedPoolEvent := do
  require (isAdaptiveHint locatorHint log.address = true)
    "Algebra Incentive event lacks adaptive provider routing"
  requireShape log 2 0 "invalid Camelot Incentive topic count"
    "invalid Camelot Incentive data length"
  let topic := log.topics.getD 1 0
  require (topic.toNat < 2 ^ 160) "Camelot Incentive indexed address has non-zero padding"
  return ⟨locatorHint.getD (.v3 log.address), .incentive (topic.setWidth 160)⟩

/-- The event of a log whose first topic is `signature`; a log of another event is not decoded. -/
def decodeSignature (signature : B256) : Except String (Option DecodedPoolEvent) :=
  if signature = v3SwapTopic then some <$> decodeV3Swap log locatorHint
  else if signature = pancakeV3SwapTopic then some <$> decodePancakeV3Swap log locatorHint
  else if signature = v3MintTopic then some <$> decodeV3Mint log locatorHint
  else if signature = v3BurnTopic then some <$> decodeV3Burn log locatorHint
  else if signature = v4SwapTopic then some <$> decodeV4Swap log
  else if signature = v4ModifyLiquidityTopic then some <$> decodeV4ModifyLiquidity log
  else if signature = camelotFeeTopic then some <$> decodeCamelotFee log locatorHint
  else if signature = lynexAlgebraV19FeeTopic then some <$> decodeLynexFee log locatorHint
  else if signature = camelotTickSpacingTopic then some <$> decodeTickSpacing log locatorHint
  else if signature = camelotIncentiveTopic then some <$> decodeIncentive log locatorHint
  else .ok none

def decodePoolEventWithLocator : Except String (Option DecodedPoolEvent) :=
  match log.topics.head? with
  | none => .ok none
  | some signature => decodeSignature log locatorHint signature

end Decoders

def decodePoolEvent (log : ChainLog) : Except String (Option DecodedPoolEvent) :=
  decodePoolEventWithLocator log none

def decodePoolEventForLocator (log : ChainLog) (locator : PoolLocator) :
    Except String (Option DecodedPoolEvent) :=
  decodePoolEventWithLocator log (some locator)

/-- A Camelot event; its Swap has texts of its own for a malformed log. -/
def decodeCamelotPoolEvent (log : ChainLog) (pool : Address) :
    Except String (Option DecodedPoolEvent) := do
  require (log.address = pool) "Camelot event address differs from its pool"
  if log.topics.head? = some v3SwapTopic then do
    requireShape log 3 (5 * 32) "invalid Camelot Swap topic count" "invalid Camelot Swap data length"
    let update ← decodeSwapHead log none
    return some ⟨.camelotV3 pool, update⟩
  else
    decodePoolEventWithLocator log (some (.camelotV3 pool))

def decodeLynexAlgebraV19PoolEvent (log : ChainLog) (pool : Address) :
    Except String (Option DecodedPoolEvent) := do
  require (log.address = pool) "Lynex Algebra V1.9 event address differs from its pool"
  decodePoolEventWithLocator log (some (.lynexAlgebraV19 pool))

/-! ## Fees proven by a receipt -/

/-- A Fee event of the bot's own transaction; Camelot's has one fee for each direction, Lynex's has
one fee. -/
inductive AdaptiveFeeReceiptProof
  | camelot (pool : Address) (zeroForOne oneForZero : Nat) (position : LogPosition)
      (blockHash : B256)
  | lynexAlgebraV19 (pool : Address) (fee : Nat) (position : LogPosition) (blockHash : B256)
  deriving DecidableEq

namespace AdaptiveFeeReceiptProof

def pool : AdaptiveFeeReceiptProof → Address
  | camelot pool _ _ _ _ => pool
  | lynexAlgebraV19 pool _ _ _ => pool

def position : AdaptiveFeeReceiptProof → LogPosition
  | camelot _ _ _ position _ => position
  | lynexAlgebraV19 _ _ position _ => position

def blockHash : AdaptiveFeeReceiptProof → B256
  | camelot _ _ _ _ blockHash => blockHash
  | lynexAlgebraV19 _ _ _ blockHash => blockHash

end AdaptiveFeeReceiptProof

end PolyBot.Dex
