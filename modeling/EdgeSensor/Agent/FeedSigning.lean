import EdgeSensor.Py.Bytes
import EdgeSensor.Py.Text

/-!
# Signed feeds (`policy/feed_signing.py`)

The signature of a feed body is an HMAC in Base64, under a key derived from the shared
secret and the tenant. `hmac.compare_digest` takes two `str` only if both are ASCII. The
computed signature always is (`signArtifact_ascii`), so whether it raises is the header's
doing.

The hash functions are parameters.
-/

namespace EdgeSensor.Agent

open EdgeSensor.Py

/-- SHA-256, and HMAC-SHA-256 of a key and a message. -/
structure HashLib where
  sha256 : Bytes → Bytes
  hmacSha256 : Bytes → Bytes → Bytes

/-- `s.encode("utf-8")`. -/
def encodeUtf8 (s : String) : Bytes := s.toUTF8.toList

/-- `DEV_FALLBACK_SECRET`. -/
def devFallbackSecret : String := "sensel-ot-feed-dev-secret"

/-- `derive_feed_key`. -/
def deriveFeedKey (hash : HashLib) (tenantId baseSecret : String) : Bytes :=
  let secret := if baseSecret = "" then devFallbackSecret else baseSecret
  hash.sha256 (encodeUtf8 s!"{secret}:{tenantId}:ot-feed")

def hexDigits : List Char := "0123456789abcdef".toList

/-- `sha256_hex`. -/
def sha256Hex (hash : HashLib) (body : Bytes) : String :=
  String.ofList ((hash.sha256 body).flatMap fun b =>
    [hexDigits.getD (b.toNat / 16) '0', hexDigits.getD (b.toNat % 16) '0'])

def base64Alphabet : List Char :=
  "ABCDEFGHIJKLMNOPQRSTUVWXYZabcdefghijklmnopqrstuvwxyz0123456789+/".toList

def base64Char (n : Nat) : Char := base64Alphabet.getD n 'A'

/-- `base64.b64encode`. -/
def b64encode : Bytes → List Char
  | [] => []
  | [a] => [base64Char (a.toNat / 4), base64Char (a.toNat % 4 * 16), '=', '=']
  | [a, b] =>
    [base64Char (a.toNat / 4), base64Char (a.toNat % 4 * 16 + b.toNat / 16),
      base64Char (b.toNat % 16 * 4), '=']
  | a :: b :: c :: rest =>
    base64Char (a.toNat / 4) :: base64Char (a.toNat % 4 * 16 + b.toNat / 16)
      :: base64Char (b.toNat % 16 * 4 + c.toNat / 64) :: base64Char (c.toNat % 64)
      :: b64encode rest

/-- `sign_artifact`. -/
def signArtifact (hash : HashLib) (body : Bytes) (tenantId baseSecret : String) : String :=
  String.ofList (b64encode (hash.hmacSha256 (deriveFeedKey hash tenantId baseSecret) body))

def isAscii (s : String) : Bool := s.toList.all fun c => c.toNat < 128

/-- `hmac.compare_digest` on `str`. -/
def compareDigest (a b : String) : Except PyErr Bool :=
  if isAscii a && isAscii b then .ok (a = b)
  else .error (.typeError "comparing strings with non-ASCII characters is not supported")

/-- `verify_artifact`. -/
def verifyArtifact (hash : HashLib) (body : Bytes) (signature tenantId baseSecret : String) :
    Except PyErr Bool :=
  if signature = "" then .ok false
  else compareDigest (signArtifact hash body tenantId baseSecret) signature

theorem base64Char_ascii (n : Nat) : (base64Char n).toNat < 128 := by
  have hall : (base64Alphabet.all fun c => c.toNat < 128) = true := by rfl
  unfold base64Char
  rw [List.getD_eq_getElem?_getD]
  cases h : base64Alphabet[n]? with
  | none => decide
  | some c => simpa using List.all_eq_true.mp hall c (List.mem_of_getElem? h)

theorem b64encode_ascii (data : Bytes) : ∀ c ∈ b64encode data, c.toNat < 128 := by
  fun_induction b64encode data with
  | case1 => simp
  | case2 a => simp [base64Char_ascii]
  | case3 a b => simp [base64Char_ascii]
  | case4 a b c rest ih => simpa [base64Char_ascii] using ih

theorem signArtifact_ascii (hash : HashLib) (body : Bytes) (tenantId baseSecret : String) :
    isAscii (signArtifact hash body tenantId baseSecret) = true := by
  unfold isAscii signArtifact
  rw [String.toList_ofList, List.all_eq_true]
  intro c hc
  simpa using b64encode_ascii _ c hc

/-- **When a signature can be verified at all**: if it is missing, or ASCII. -/
theorem verifyArtifact_ok_iff {hash : HashLib} {body : Bytes}
    {signature tenantId baseSecret : String} :
    (∃ valid, verifyArtifact hash body signature tenantId baseSecret = .ok valid)
      ↔ isAscii signature = true := by
  unfold verifyArtifact compareDigest
  rw [signArtifact_ascii, Bool.true_and]
  by_cases hempty : signature = ""
  · subst hempty
    simp [isAscii]
  · rw [if_neg hempty]
    by_cases hascii : isAscii signature = true
    · simp [hascii]
    · simp [hascii]

end EdgeSensor.Agent
