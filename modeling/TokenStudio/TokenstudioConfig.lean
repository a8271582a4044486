import TokenStudio.AttestationTypes.Basic

/-!
# Token and gate configurations

The model of the validators of the crate `tokenstudio-config`.  Reading a gate
from its file is in `JsonFile.lean`.  Writing configuration files and the wallet
command lines are not modelled.

Every consumer of a gate validates it first, and the bounds of the validator
are what keeps the later encoders from panicking:
`GateConfig.exists_contextHash` says that a valid gate has a context hash.
-/

namespace TokenStudio

/-- `TOKEN_CONFIG_VERSION`. -/
def tokenConfigVersion : UInt16 := 1

/-- `GATE_CONFIG_VERSION`. -/
def gateConfigVersion : UInt16 := 1

/-- `ConfigError`, as far as the validators raise it. -/
inductive ConfigError where
  | invalid (message : String)
  deriving DecidableEq, Repr

/-- The text of a `ConfigError`. -/
def ConfigError.toText : ConfigError → String
  | .invalid message => message

/-- `char::is_whitespace`: the Unicode property `White_Space`. -/
def isWhitespace (c : Char) : Bool :=
  let n := c.toNat
  (0x09 ≤ n && n ≤ 0x0d) || n = 0x20 || n = 0x85 || n = 0xa0 || n = 0x1680 ||
    (0x2000 ≤ n && n ≤ 0x200a) || n = 0x2028 || n = 0x2029 || n = 0x202f || n = 0x205f ||
    n = 0x3000

/-- `value.trim().is_empty()`. -/
def isBlank (value : String) : Bool := value.toList.all isWhitespace

/-- `validate_label`. -/
def validateLabel (field value : String) (maxLen : Nat) : Outcome ConfigError Unit := do
  Outcome.check (isBlank value) (.invalid (field ++ " cannot be empty"))
  Outcome.check ((asBytes value).length > maxLen)
    (.invalid (field ++ " cannot exceed " ++ toString maxLen ++ " bytes"))

/-- `validate_symbol`. -/
def validateSymbol (symbol : String) : Outcome ConfigError Unit := do
  Outcome.check (¬ (2 ≤ (asBytes symbol).length ∧ (asBytes symbol).length ≤ 12))
    (.invalid "token symbol must contain 2 to 12 ASCII characters")
  Outcome.check
    (¬ (asBytes symbol).all fun b => (0x41 ≤ b && b ≤ 0x5a) || (0x30 ≤ b && b ≤ 0x39))
    (.invalid "token symbol may contain only uppercase ASCII letters and digits")

structure TokenConfig where
  schemaVersion : UInt16
  name : String
  symbol : String
  decimals : UInt8
  definitionAccountId : Digest32
  tokenProgramOwner : ProgramOwner
  definitionAccount : String
  supplyAccount : String
  issuerAccount : String
  totalSupply : U128
  deriving DecidableEq

/-- `TokenConfig::validate`. -/
def TokenConfig.validate (self : TokenConfig) : Outcome ConfigError Unit := do
  Outcome.check (self.schemaVersion ≠ tokenConfigVersion)
    (.invalid ("unsupported token config version " ++ toString self.schemaVersion ++
      "; expected " ++ toString tokenConfigVersion))
  validateLabel "token name" self.name 64
  validateSymbol self.symbol
  Outcome.check (self.decimals > 18) (.invalid "token decimals must be between 0 and 18")
  Outcome.check (self.definitionAccountId = zeroDigest)
    (.invalid "token definition account id cannot be all zero")
  Outcome.check (self.tokenProgramOwner = zeroOwner)
    (.invalid "token program owner cannot be all zero")
  validateLabel "definition account" self.definitionAccount 256
  validateLabel "supply account" self.supplyAccount 256
  validateLabel "issuer account" self.issuerAccount 256
  Outcome.check (self.totalSupply = 0)
    (.invalid "token total supply must be greater than zero")

structure GateConfig where
  schemaVersion : UInt16
  token : TokenConfig
  context : GateContext
  deriving DecidableEq

namespace GateConfig

/-- `GateConfig::validate`. -/
def validate (self : GateConfig) : Outcome ConfigError Unit := do
  Outcome.check (self.schemaVersion ≠ gateConfigVersion)
    (.invalid ("unsupported gate config version " ++ toString self.schemaVersion ++
      "; expected " ++ toString gateConfigVersion))
  self.token.validate
  validateLabel "application id" self.context.applicationId 128
  validateLabel "gate id" self.context.gateId 128
  validateLabel "verifier id" self.context.verifierId 256
  Outcome.check (self.context.threshold = 0)
    (.invalid "gate threshold must be greater than zero")
  Outcome.check (self.context.tokenProgramOwner ≠ self.token.tokenProgramOwner)
    (.invalid "gate token program owner does not match token config")
  Outcome.check (self.context.tokenDefinitionId ≠ self.token.definitionAccountId)
    (.invalid "gate token definition id does not match token config")

/-- `GateConfig::new`. -/
def new (token : TokenConfig) (context : GateContext) : Outcome ConfigError GateConfig := do
  let config : GateConfig := { schemaVersion := gateConfigVersion, token, context }
  config.validate
  pure config

/-- `GateConfig::context_hash`. -/
def contextHash (sha256 : Bytes → Digest32) (self : GateConfig) : Option Digest32 :=
  self.context.contextHash sha256

end GateConfig

/-! ## What validation guarantees -/

theorem validateLabel_eq_ok {field value : String} {maxLen : Nat} {u : Unit} :
    validateLabel field value maxLen = .ok u ↔
      isBlank value = false ∧ (asBytes value).length ≤ maxLen := by
  simp [validateLabel, Outcome.bind_eq_ok]

/-- The labels of a valid gate are short. -/
theorem GateConfig.label_lengths {gate : GateConfig} {u : Unit} (h : gate.validate = .ok u) :
    (asBytes gate.context.applicationId).length ≤ 128 ∧
      (asBytes gate.context.gateId).length ≤ 128 ∧
      (asBytes gate.context.verifierId).length ≤ 256 := by
  simp only [validate, Outcome.bind_eq_ok, validateLabel_eq_ok, Outcome.exists_unit] at h
  obtain ⟨-, -, ⟨-, happ⟩, ⟨-, hgate⟩, ⟨-, hver⟩, -⟩ := h
  exact ⟨happ, hgate, hver⟩

/-- A valid gate has a context hash. -/
theorem GateConfig.exists_contextHash (sha256 : Bytes → Digest32) {gate : GateConfig} {u : Unit}
    (h : gate.validate = .ok u) : ∃ d, gate.contextHash sha256 = some d := by
  obtain ⟨happ, hgate, hver⟩ := label_lengths h
  exact GateContext.exists_contextHash sha256 (by omega) (by omega) (by omega)

/-- The threshold of a valid gate is not zero. -/
theorem GateConfig.threshold_ne_zero {gate : GateConfig} {u : Unit}
    (h : gate.validate = .ok u) : gate.context.threshold ≠ 0 := by
  simp only [validate, Outcome.bind_eq_ok, Outcome.check_eq_ok, Outcome.exists_unit] at h
  exact h.2.2.2.2.2.1

/-- No validator panics. -/
theorem GateConfig.validate_ne_panic (gate : GateConfig) : gate.validate ≠ .panic := by
  have hlabel : ∀ field value maxLen, validateLabel field value maxLen ≠ .panic := by
    intro field value maxLen
    simp [validateLabel, Outcome.bind_eq_panic]
  have hsymbol : ∀ symbol, validateSymbol symbol ≠ .panic := by
    intro symbol
    simp [validateSymbol, Outcome.bind_eq_panic]
  have htoken : gate.token.validate ≠ .panic := by
    simp [TokenConfig.validate, Outcome.bind_eq_panic, hlabel, hsymbol]
  simp [validate, Outcome.bind_eq_panic, hlabel, htoken]

/-- The token of the crate's tests. -/
def foundersToken : TokenConfig where
  schemaVersion := tokenConfigVersion
  name := "Founders Token"
  symbol := "FNDR"
  decimals := 0
  definitionAccountId := List.Vector.replicate 32 4
  tokenProgramOwner := List.Vector.replicate 8 7
  definitionAccount := "Private/founders-definition"
  supplyAccount := "Private/founders-supply"
  issuerAccount := "Private/founders-issuer"
  totalSupply := 1000000

/-- The gate of the crate's tests. -/
def foundersGate : GateConfig where
  schemaVersion := gateConfigVersion
  token := foundersToken
  context :=
    { applicationId := "tokenstudio"
      gateId := "founders-chat"
      tokenProgramOwner := foundersToken.tokenProgramOwner
      tokenDefinitionId := foundersToken.definitionAccountId
      threshold := 100
      verifierId := "logos-chat:founders"
      expiresAtUnixMs := some 2000000 }

end TokenStudio
