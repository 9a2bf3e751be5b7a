import EdgeSensor.Agent.FeedSigning
import EdgeSensor.Lib.Run
import EdgeSensor.Py.Number

/-!
# Logging in to the console (`auth.py`, and its endpoints in `main.py`)

A session is a cookie that says when it ends and is signed under the password. There is no list
of sessions: a token is good if its signature is right and its time has not come. So logging out
ends nothing (the cookie is deleted in the browser only), and a new password ends every session
(`session_accepted_iff`).

A new password is stripped before it is kept, and read back with its line ends translated. The
comparison takes ASCII only. `password_logs_in_iff` says which password then logs in: it need not
be the one that was chosen.

Mirroring notes:
- The clock is `int(time.time())`, and fits into 63 bits.
- A request body is valid Unicode, and the cookie is what the header says. The endpoint's model
  of the body refuses a new password of less than 8 or more than 128 characters; it looks at the
  session before.
- The password file is text. An `OSError` is not in the model, nor is the audit log.
- HMAC-SHA-256 is a parameter.
-/

namespace EdgeSensor.Console

open EdgeSensor.Lib EdgeSensor.Py
open EdgeSensor.Agent (HashLib encodeUtf8 hexDigits isAscii compareDigest)

/-- `int(time.time())`. -/
structure SessionClock where
  sec : Nat
  bounded : sec < 2 ^ 63

/-- What the process is given. -/
structure AuthEnv where
  hash : HashLib
  tables : UnicodeTables
  /-- `EDGE_CONSOLE_SECRET`. -/
  secretVar : Option String := none
  /-- `EDGE_CONSOLE_PASSWORD`. -/
  passwordVar : Option String := none

/-- `_TTL_SEC`. -/
def ttlSec : Nat := 60 * 60 * 12

/-- What a file in text mode gives for its line ends. -/
def textNewlines : List Char → List Char
  | [] => []
  | '\r' :: '\n' :: cs => '\n' :: textNewlines cs
  | '\r' :: cs => '\n' :: textNewlines cs
  | c :: cs => c :: textNewlines cs

/-- `read_text`. -/
def readText (file : String) : String := String.ofList (textNewlines file.toList)

/-- `x or y`. -/
def orText (x y : String) : String := if x = "" then y else x

/-- `bytes.hex`, as in `hexdigest` and `token_hex`. -/
def hexText (data : Bytes) : String :=
  String.ofList (data.flatMap fun b =>
    [hexDigits.getD (b.toNat / 16) '0', hexDigits.getD (b.toNat % 16) '0'])

section Functions

variable (env : AuthEnv) (file : Option String)

/-- `_secret`. -/
def secret : String :=
  orText (strip (readText (file.getD "")))
    (orText (env.secretVar.getD "")
      (orText (env.passwordVar.getD "") "sensel-edge-console-dev-change-me"))

/-- `password_required`. -/
def passwordRequired : Bool := file.isSome || strip (env.passwordVar.getD "") ≠ ""

/-- `verify_password`. -/
def verifyPassword (password : String) : Except PyErr Bool :=
  if strip (env.passwordVar.getD "") = "" ∧ file.isNone then .ok true
  else compareDigest password (secret env file)

/-- `set_password`: what is in the file then. -/
def setPassword (password : String) : Except PyErr String :=
  let text := strip password
  if text.length < 8 then .error (.valueError "Password must be at least 8 characters")
  else .ok text

/-- `_sign`. -/
def sign (payload : String) : String :=
  hexText (env.hash.hmacSha256 (encodeUtf8 (secret env file)) (encodeUtf8 payload))

/-- The token that `create_session` puts into the cookie. -/
def createSession (now : SessionClock) (nonce : Bytes) : String :=
  let payload := s!"{now.sec + ttlSec}.{hexText nonce}"
  s!"{payload}.{sign env file payload}"

/-- `_valid_token`. -/
def validToken (now : SessionClock) (token : String) : Except PyErr Bool :=
  match token.toList.splitOn '.' with
  | [expStr, nonce, sig] =>
    match compareDigest (String.ofList sig)
        (sign env file s!"{String.ofList expStr}.{String.ofList nonce}") with
    | .error e => .error e
    | .ok false => .ok false
    | .ok true =>
      match readInt env.tables expStr with
      | none => .ok false
      | some exp => .ok ((now.sec : Int) ≤ exp)
  | _ => .ok false

/-- `require_session`: whether it lets the request pass. -/
def requireSession (now : SessionClock) (token : Option String) : Except PyErr Bool :=
  if passwordRequired env file then
    match token with
    | none => .ok false
    | some token => validToken env file now token
  else .ok true

end Functions

/-! ## The console -/

/-- What the endpoints answer. -/
inductive AuthReply where
  /-- 200, with the cookie that is set. -/
  | ok (cookie : Option String)
  /-- 401. -/
  | denied
  /-- 400 or 422. -/
  | invalid
  /-- 500. -/
  | raised (e : PyErr)
  deriving DecidableEq

/-- The console, and the last new password that it answered 200 to. -/
structure ConsoleAuth where
  file : Option String
  now : SessionClock
  chosen : Option String := none

/-- What happens: a request to an endpoint, or time passes. -/
inductive AuthStep where
  | login (password : String) (nonce : Bytes)
  | logout (token : Option String)
  | changePassword (token : Option String) (current new : String)
  | time (now : SessionClock)

namespace ConsoleAuth

variable (env : AuthEnv) (w : ConsoleAuth)

/-- `login`. -/
def login (password : String) (nonce : Bytes) : AuthReply :=
  if passwordRequired env w.file then
    match verifyPassword env w.file password with
    | .error e => .raised e
    | .ok false => .denied
    | .ok true => .ok (some (createSession env w.file w.now nonce))
  else .ok (some (createSession env w.file w.now nonce))

/-- What `change_password` asks for before it sets the password. -/
def mayChange (token : Option String) (current : String) : Except PyErr Bool :=
  match requireSession env w.file w.now token with
  | .ok true => if passwordRequired env w.file then verifyPassword env w.file current else .ok true
  | denied => denied

/-- `change_password`. -/
def changePassword (token : Option String) (current new : String) : ConsoleAuth × AuthReply :=
  match w.mayChange env token current with
  | .error e => (w, .raised e)
  | .ok false => (w, .denied)
  | .ok true =>
    if new.length < 8 ∨ 128 < new.length then (w, .invalid)
    else
      match setPassword new with
      | .error _ => (w, .invalid)
      | .ok text => ({ w with file := some text, chosen := some new }, .ok none)

def step : AuthStep → ConsoleAuth
  | .login _ _ => w
  | .logout _ => w
  | .changePassword token current new => (w.changePassword env token current new).1
  | .time now => { w with now := now }

def run (steps : List AuthStep) : ConsoleAuth := steps.foldl (step env) w

end ConsoleAuth

/-! ## Texts -/

theorem textNewlines_cons {c : Char} (h : c ≠ '\r') (cs : List Char) :
    textNewlines (c :: cs) = c :: textNewlines cs := by
  rw [textNewlines]
  · intro cs' hcr
    exact absurd hcr h
  · exact h

theorem textNewlines_concat {c : Char} (hcr : c ≠ '\r') (hlf : c ≠ '\n') (cs : List Char) :
    textNewlines (cs ++ [c]) = textNewlines cs ++ [c] := by
  fun_induction textNewlines cs with
  | case1 => exact textNewlines_cons hcr []
  | case2 cs ih =>
    show textNewlines ('\r' :: '\n' :: (cs ++ [c])) = _
    rw [textNewlines, ih]
    rfl
  | case3 cs hno ih =>
    show textNewlines ('\r' :: (cs ++ [c])) = _
    rw [textNewlines, ih]
    · rfl
    · -- what follows is no line feed
      intro cs' heq
      cases cs with
      | nil => exact hlf (List.cons.inj heq).1
      | cons d ds => exact hno ds (by rw [(List.cons.inj heq).1])
  | case4 d cs hcrlf hd ih =>
    show textNewlines (d :: (cs ++ [c])) = _
    rw [textNewlines_cons hd, ih]
    rfl

theorem not_mem_textNewlines (cs : List Char) : '\r' ∉ textNewlines cs := by
  fun_induction textNewlines cs with
  | case1 => exact List.not_mem_nil
  | case2 cs ih => simpa using ih
  | case3 cs hno ih => simpa using ih
  | case4 d cs hcrlf hd ih => simpa using ⟨fun heq => hd heq.symm, ih⟩

theorem textNewlines_eq_self_iff {cs : List Char} : textNewlines cs = cs ↔ '\r' ∉ cs := by
  constructor
  · intro heq
    rw [← heq]
    exact not_mem_textNewlines cs
  · intro hno
    induction cs with
    | nil => rfl
    | cons c cs ih =>
      have hc : c ≠ '\r' := fun heq => hno (heq ▸ List.mem_cons_self)
      rw [textNewlines_cons hc, ih fun hmem => hno (List.mem_cons_of_mem c hmem)]

/-- What was stripped before it was written is stripped when it is read. -/
theorem strip_readText {text : String} (h : strip text = text) :
    strip (readText text) = readText text := by
  have hspace : ∀ c, isSpace c = false → c ≠ '\r' ∧ c ≠ '\n' := fun c hc =>
    ⟨fun heq => (by rw [heq] at hc; cases hc), fun heq => (by rw [heq] at hc; cases hc)⟩
  obtain ⟨hfirst, hlast⟩ := strip_eq_self_iff.mp h
  refine strip_eq_self_iff.mpr ⟨fun c hc => ?_, fun c hc => ?_⟩
  · rw [readText, String.toList_ofList] at hc
    cases hs : text.toList with
    | nil =>
      rw [hs] at hc
      cases hc
    | cons a cs =>
      have ha := hfirst a (by rw [hs]; rfl)
      rw [hs, textNewlines_cons (hspace a ha).1] at hc
      cases hc
      exact ha
  · rw [readText, String.toList_ofList] at hc
    rcases List.eq_nil_or_concat text.toList with hs | ⟨cs, a, hs⟩
    · rw [hs] at hc
      cases hc
    · have ha := hlast a (by rw [hs, List.concat_eq_append]; exact List.getLast?_concat)
      rw [hs, List.concat_eq_append, textNewlines_concat (hspace a ha).1 (hspace a ha).2,
        List.getLast?_concat] at hc
      cases hc
      exact ha

theorem readText_eq_self_iff {text : String} : readText text = text ↔ '\r' ∉ text.toList := by
  rw [readText, ← String.toList_inj, String.toList_ofList, textNewlines_eq_self_iff]

theorem readText_ne_empty {text : String} (h : text ≠ "") : readText text ≠ "" := by
  intro heq
  rw [readText, ← String.toList_inj, String.toList_ofList] at heq
  cases hs : text.toList with
  | nil => exact h (String.toList_inj.mp hs)
  | cons c cs =>
    rw [hs] at heq
    unfold textNewlines at heq
    split at heq
    next heq' => cases heq'
    next => cases heq
    next => cases heq
    next => cases heq

theorem hexDigits_eq : hexDigits =
    ['0', '1', '2', '3', '4', '5', '6', '7', '8', '9', 'a', 'b', 'c', 'd', 'e', 'f'] :=
  String.toList_ofList

/-- What `bytes.hex` gives. -/
theorem hexText_chars (data : Bytes) : ∀ c ∈ (hexText data).toList, c ∈ '0' :: hexDigits := by
  have hget : ∀ n, hexDigits.getD n '0' ∈ '0' :: hexDigits := by
    intro n
    rw [List.getD_eq_getElem?_getD]
    cases hn : hexDigits[n]? with
    | none => exact List.mem_cons_self
    | some c => exact List.mem_cons_of_mem _ (List.mem_of_getElem? hn)
  intro c hc
  rw [hexText, String.toList_ofList] at hc
  obtain ⟨b, -, hmem⟩ := List.mem_flatMap.mp hc
  rcases List.mem_cons.mp hmem with rfl | hmem
  · exact hget _
  · rw [List.mem_singleton.mp hmem]
    exact hget _

theorem isAscii_hexText (data : Bytes) : isAscii (hexText data) = true := by
  have hall : ∀ c ∈ '0' :: hexDigits, decide (c.toNat < 128) = true := by
    rw [hexDigits_eq]
    exact List.all_eq_true.mp rfl
  exact List.all_eq_true.mpr fun c hc => hall c (hexText_chars data c hc)

theorem dot_not_mem_hexText (data : Bytes) : '.' ∉ (hexText data).toList := fun hmem =>
  absurd (hexText_chars data '.' hmem) (by rw [hexDigits_eq]; decide)

/-! ## Tokens -/

section Tokens

variable {env : AuthEnv} {file : Option String} {now : SessionClock}

theorem compareDigest_ascii {a b : String} (ha : isAscii a = true) (hb : isAscii b = true) :
    compareDigest a b = .ok (decide (a = b)) := by
  unfold compareDigest
  rw [ha, hb]
  rfl

theorem isAscii_of_compareDigest {a b : String} {same : Bool} (h : compareDigest a b = .ok same) :
    isAscii a = true ∧ isAscii b = true ∧ same = decide (a = b) := by
  unfold compareDigest at h
  split at h
  next hascii =>
    cases h
    exact ⟨(Bool.and_eq_true_iff.mp hascii).1, (Bool.and_eq_true_iff.mp hascii).2, rfl⟩
  next => cases h

theorem isAscii_sign (env : AuthEnv) (file : Option String) (payload : String) :
    isAscii (sign env file payload) = true := isAscii_hexText _

theorem dot_not_mem_sign (env : AuthEnv) (file : Option String) (payload : String) :
    '.' ∉ (sign env file payload).toList := dot_not_mem_hexText _

/-- A token of three parts. -/
theorem validToken_parts {expStr nonce sig : List Char} (hexp : '.' ∉ expStr) (hnonce : '.' ∉ nonce)
    (hsig : '.' ∉ sig) (hascii : isAscii (String.ofList sig) = true) :
    validToken env file now
        (String.ofList (expStr ++ '.' :: (nonce ++ '.' :: sig)))
      = .ok (decide (String.ofList sig
            = sign env file s!"{String.ofList expStr}.{String.ofList nonce}")
          && ((readInt env.tables expStr).any fun exp => (now.sec : Int) ≤ exp)) := by
  have hsplit : (expStr ++ '.' :: (nonce ++ '.' :: sig)).splitOn '.' = [expStr, nonce, sig] := by
    rw [List.splitOn_append_cons_self_of_not_mem hexp,
      List.splitOn_append_cons_self_of_not_mem hnonce, List.splitOn_eq_singleton hsig]
  unfold validToken
  rw [String.toList_ofList, hsplit]
  simp only
  rw [compareDigest_ascii hascii (isAscii_sign ..)]
  cases decide (String.ofList sig
      = sign env file s!"{String.ofList expStr}.{String.ofList nonce}") with
  | false => rfl
  | true =>
    simp only
    cases readInt env.tables expStr with
    | none => rfl
    | some exp => rfl

/-- **A session is good until its time has come, or the password is another.** -/
theorem validToken_createSession (env : AuthEnv) (file file' : Option String) (now now' : SessionClock)
    (nonce : Bytes) :
    validToken env file' now' (createSession env file now nonce)
      = .ok (decide (sign env file s!"{now.sec + ttlSec}.{hexText nonce}"
            = sign env file' s!"{now.sec + ttlSec}.{hexText nonce}")
          && decide (now'.sec ≤ now.sec + ttlSec)) := by
  have htoken : createSession env file now nonce
      = String.ofList (Nat.toDigits 10 (now.sec + ttlSec) ++ '.' :: ((hexText nonce).toList
          ++ '.' :: (sign env file s!"{now.sec + ttlSec}.{hexText nonce}").toList)) := by
    rw [← String.toList_inj, String.toList_ofList]
    show ((toString (now.sec + ttlSec) ++ "." ++ hexText nonce) ++ "." ++ _).toList = _
    rw [String.toList_append, String.toList_append, String.toList_append, String.toList_append,
      List.append_assoc, List.append_assoc, List.append_assoc, Nat.toString_eq_ofList_toDigits,
      String.toList_ofList, show ".".toList = ['.'] by decide]
    rfl
  have hexp : String.ofList (Nat.toDigits 10 (now.sec + ttlSec)) = toString (now.sec + ttlSec) := rfl
  have hsmall : now.sec + ttlSec < 10 ^ intMaxStrDigits := by
    have hbound := now.bounded
    have hbig : 2 ^ 63 + ttlSec ≤ 10 ^ intMaxStrDigits := by
      calc 2 ^ 63 + ttlSec ≤ 10 ^ 20 := by decide
        _ ≤ 10 ^ intMaxStrDigits := Nat.pow_le_pow_right (by decide) (by decide)
    omega
  rw [htoken, validToken_parts (not_mem_toDigits _ rfl) (dot_not_mem_hexText nonce)
    (dot_not_mem_sign env file _), String.ofList_toList, String.ofList_toList, hexp,
    readInt_toDigits env.tables ((Nat.length_toDigits_le_iff (by decide) (by decide)).mpr hsmall)]
  · rw [Option.any_some]
    congr 2
    exact decide_eq_decide.mpr Int.ofNat_le
  · rw [String.ofList_toList]
    exact isAscii_sign ..

/-- **What a good token is**: a time that has not come and a text, signed. -/
theorem validToken_eq_true_iff {token : String} : validToken env file now token = .ok true ↔
    ∃ expStr nonce exp, '.' ∉ expStr ∧ '.' ∉ nonce
      ∧ token.toList = expStr ++ '.' :: (nonce ++ '.' ::
        (sign env file s!"{String.ofList expStr}.{String.ofList nonce}").toList)
      ∧ readInt env.tables expStr = some exp ∧ (now.sec : Int) ≤ exp := by
  constructor
  · intro hvalid
    unfold validToken at hvalid
    split at hvalid
    next expStr nonce sig hparts =>
      have hall : ∀ part ∈ [expStr, nonce, sig], '.' ∉ part := fun part hpart =>
        not_mem_of_mem_splitOn (hparts ▸ hpart)
      have hjoin : List.intercalate ['.'] (token.toList.splitOn '.') = token.toList :=
        List.intercalate_splitOn '.'
      rw [hparts] at hjoin
      split at hvalid
      next => cases hvalid
      next => cases hvalid
      next hsame =>
        have hsig := of_decide_eq_true (isAscii_of_compareDigest hsame).2.2.symm
        split at hvalid
        next => cases hvalid
        next exp hread =>
          refine ⟨expStr, nonce, exp, hall _ (by simp), hall _ (by simp), ?_, hread,
            of_decide_eq_true (Except.ok.inj hvalid)⟩
          rw [← hsig, String.toList_ofList, ← hjoin]
          simp [List.intercalate]
    next => cases hvalid
  · intro ⟨expStr, nonce, exp, hexp, hnonce, htoken, hread, hlate⟩
    rw [← String.ofList_toList (s := token), htoken, validToken_parts hexp hnonce
      (dot_not_mem_sign env file _), String.ofList_toList, hread]
    · simp [hlate]
    · rw [String.ofList_toList]
      exact isAscii_sign ..

end Tokens

/-! ## Runs -/

/-- The session with this token is accepted. -/
def ConsoleAuth.accepts (env : AuthEnv) (w : ConsoleAuth) (token : String) : Except PyErr Bool :=
  requireSession env w.file w.now (some token)

/-- It asks for another password. -/
def AuthStep.isChange : AuthStep → Bool
  | .changePassword _ _ _ => true
  | _ => false

namespace ConsoleAuth

variable {env : AuthEnv} {w : ConsoleAuth}

theorem changePassword_cases (token : Option String) (current new : String) :
    (w.changePassword env token current new).1 = w ∨
    (8 ≤ (strip new).length ∧ (w.changePassword env token current new).1
        = { w with file := some (strip new), chosen := some new }) := by
  unfold changePassword
  split
  next => exact .inl rfl
  next => exact .inl rfl
  next =>
    split
    next => exact .inl rfl
    next =>
      unfold setPassword
      simp only
      split
      next => exact .inl rfl
      next text htext =>
        split at htext
        next => cases htext
        next hlong =>
          cases htext
          exact .inr ⟨Nat.not_lt.mp hlong, rfl⟩

/-- What the file has to do with the password that was chosen. -/
def Keeps (w : ConsoleAuth) : Prop :=
  ∀ new, w.chosen = some new → w.file = some (strip new) ∧ 8 ≤ (strip new).length

theorem Keeps.step (h : w.Keeps) (x : AuthStep) : (w.step env x).Keeps := by
  cases x with
  | login password nonce => exact h
  | logout token => exact h
  | time now => exact h
  | changePassword token current new =>
    show (w.changePassword env token current new).1.Keeps
    rcases changePassword_cases token current new with hsame | ⟨hlong, hset⟩
    · rw [hsame]
      exact h
    · rw [hset]
      intro other hother
      cases hother
      exact ⟨rfl, hlong⟩

theorem keeps_run (file : Option String) (now : SessionClock) (steps : List AuthStep) :
    (run env { file := file, now := now } steps).Keeps := by
  have hgo : ∀ (steps : List AuthStep) (w : ConsoleAuth), w.Keeps → (run env w steps).Keeps := by
    intro steps
    induction steps with
    | nil => exact fun _ h => h
    | cons x steps ih => exact fun w h => ih _ (h.step x)
  exact hgo steps _ fun new hno => by cases hno

theorem file_run_of_no_change (w : ConsoleAuth) {steps : List AuthStep}
    (h : ∀ x ∈ steps, x.isChange = false) : (run env w steps).file = w.file := by
  induction steps generalizing w with
  | nil => rfl
  | cons x steps ih =>
    have hstep : (w.step env x).file = w.file := by
      cases x with
      | login password nonce => rfl
      | logout token => rfl
      | time now => rfl
      | changePassword token current new => cases h _ List.mem_cons_self
    exact (ih _ fun y hy => h y (List.mem_cons_of_mem x hy)).trans hstep

theorem token_of_login {password : String} {nonce : Bytes} {token : String}
    (h : w.login env password nonce = .ok (some token)) :
    token = createSession env w.file w.now nonce := by
  unfold login at h
  split at h
  next =>
    split at h
    next => cases h
    next => cases h
    next => exact (Option.some.inj (AuthReply.ok.inj h)).symm
  next => exact (Option.some.inj (AuthReply.ok.inj h)).symm

end ConsoleAuth

/-- **How long a session is good for.** Whatever requests follow a login: its token is accepted
exactly while a password is not required, or twelve hours have not passed and the key of that moment
signs as the key of the login did. Without a new password it is accepted for the twelve hours,
whether its owner logs out or not. -/
theorem session_accepted_iff (env : AuthEnv) (w : ConsoleAuth) (password : String) (nonce : Bytes)
    {token : String} (hlogin : w.login env password nonce = .ok (some token))
    (after : List AuthStep) {w' : ConsoleAuth}
    (hrun : w.run env (.login password nonce :: after) = w') :
    w'.accepts env token = .ok (!passwordRequired env w'.file
        || (decide (sign env w.file s!"{w.now.sec + ttlSec}.{hexText nonce}"
              = sign env w'.file s!"{w.now.sec + ttlSec}.{hexText nonce}")
          && decide (w'.now.sec ≤ w.now.sec + ttlSec)))
      ∧ ((∀ x ∈ after, x.isChange = false) →
        w'.accepts env token
          = .ok (!passwordRequired env w.file || decide (w'.now.sec ≤ w.now.sec + ttlSec))) := by
  have haccepts : w'.accepts env token = .ok (!passwordRequired env w'.file
      || (decide (sign env w.file s!"{w.now.sec + ttlSec}.{hexText nonce}"
            = sign env w'.file s!"{w.now.sec + ttlSec}.{hexText nonce}")
        && decide (w'.now.sec ≤ w.now.sec + ttlSec))) := by
    unfold ConsoleAuth.accepts requireSession
    rw [ConsoleAuth.token_of_login hlogin]
    simp only
    rw [validToken_createSession]
    cases passwordRequired env w'.file with
    | false => rfl
    | true => rfl
  refine ⟨haccepts, fun hkept => ?_⟩
  have hfile : w'.file = w.file := by
    rw [← hrun]
    exact @ConsoleAuth.file_run_of_no_change env w (.login password nonce :: after)
      (List.forall_mem_cons.mpr ⟨rfl, hkept⟩)
  rw [haccepts, hfile, decide_eq_true rfl, Bool.true_and]

theorem noon_bounded : 1000 < 2 ^ 63 := by decide

theorem night_bounded : 44200 < 2 ^ 63 := by decide

def noon : SessionClock := ⟨1000, noon_bounded⟩

/-- Twelve hours later. -/
def night : SessionClock := ⟨44200, night_bounded⟩

/-- A console with nothing in its environment. -/
def bareConsole : AuthEnv where
  hash := { sha256 := fun data => data, hmacSha256 := fun key message => key ++ message }
  tables := { decimal := fun _ => none, digit := fun _ => false }

/-- Someone logs in and out. -/
theorem session_accepted_iff_logout :
    ∃ token, ({ file := some "secret-7", now := noon } : ConsoleAuth).login bareConsole "secret-7" [7]
        = .ok (some token)
      ∧ (({ file := some "secret-7", now := noon } : ConsoleAuth).run bareConsole
          [.login "secret-7" [7], .logout (some token), .time night]).accepts bareConsole token
        = .ok true := by
  have hlogin : ({ file := some "secret-7", now := noon } : ConsoleAuth).login bareConsole
      "secret-7" [7] = .ok (some (createSession bareConsole (some "secret-7") noon [7])) := by
    decide +kernel
  refine ⟨_, hlogin, ?_⟩
  have haccepted := (session_accepted_iff bareConsole _ "secret-7" [7] hlogin
    [.logout (some (createSession bareConsole (some "secret-7") noon [7])), .time night] rfl).2
  rw [haccepted (by
    intro x hx
    rcases List.mem_cons.mp hx with rfl | hx
    · rfl
    · rw [List.mem_singleton.mp hx]
      rfl)]
  decide +kernel

/-- The secret is the password that was chosen, as it is read back. -/
theorem secret_of_file (env : AuthEnv) {new : String} (hlong : 8 ≤ (strip new).length) :
    secret env (some (strip new)) = readText (strip new) := by
  have hne : strip new ≠ "" := fun hno => by
    rw [hno] at hlong
    exact absurd hlong (by decide)
  unfold secret orText
  rw [Option.getD_some, strip_readText (strip_strip_text new), if_neg (readText_ne_empty hne)]

/-- Where there is a password file, the secret logs in if it is ASCII, and nothing else does. -/
theorem login_ok_iff (env : AuthEnv) {w : ConsoleAuth} {text : String} (hfile : w.file = some text)
    (password : String) (nonce : Bytes) :
    (∃ cookie, w.login env password nonce = .ok cookie) ↔
      password = secret env w.file ∧ isAscii password = true := by
  have hrequired : passwordRequired env w.file = true := by
    rw [hfile]
    rfl
  have hverify : verifyPassword env w.file password
      = compareDigest password (secret env w.file) := by
    unfold verifyPassword
    rw [if_neg (by rw [hfile]; simp)]
  unfold ConsoleAuth.login
  rw [if_pos hrequired, hverify]
  constructor
  · intro ⟨cookie, hok⟩
    split at hok
    next => cases hok
    next => cases hok
    next hsame =>
      obtain ⟨hascii, -, heq⟩ := isAscii_of_compareDigest hsame
      exact ⟨of_decide_eq_true heq.symm, hascii⟩
  · intro ⟨heq, hascii⟩
    rw [compareDigest_ascii hascii (heq ▸ hascii), decide_eq_true heq]
    exact ⟨_, rfl⟩

/-- **Which password logs in.** After any run in which a new password was taken: the one that logs
in is that password stripped and with its line ends translated, and it does if it is ASCII. So the
password that was chosen logs in exactly if it is ASCII, with no white space at its ends and no
carriage return in it. -/
theorem password_logs_in_iff (env : AuthEnv) (file : Option String) (now : SessionClock)
    (steps : List AuthStep) {w : ConsoleAuth}
    (hrun : ConsoleAuth.run env { file := file, now := now } steps = w) {new : String}
    (hchosen : w.chosen = some new) (nonce : Bytes) :
    (∀ password, (∃ cookie, w.login env password nonce = .ok cookie) ↔
        password = readText (strip new) ∧ isAscii password = true)
      ∧ ((∃ cookie, w.login env new nonce = .ok cookie) ↔
        strip new = new ∧ '\r' ∉ new.toList ∧ isAscii new = true) := by
  obtain ⟨hfile, hlong⟩ := (hrun ▸ ConsoleAuth.keeps_run file now steps : w.Keeps) new hchosen
  have hlogin : ∀ password, (∃ cookie, w.login env password nonce = .ok cookie) ↔
      password = readText (strip new) ∧ isAscii password = true := by
    intro password
    rw [login_ok_iff env hfile, hfile, secret_of_file env hlong]
  refine ⟨hlogin, (hlogin new).trans ⟨fun ⟨heq, hascii⟩ => ?_, fun ⟨hstrip, hcr, hascii⟩ => ?_⟩⟩
  · have hstrip : strip new = new := by
      have hread := strip_readText (strip_strip_text new)
      rw [← heq] at hread
      exact hread
    rw [hstrip] at heq
    exact ⟨hstrip, readText_eq_self_iff.mp heq.symm, hascii⟩
  · rw [hstrip]
    exact ⟨(readText_eq_self_iff.mpr hcr).symm, hascii⟩

/-- A password with a blank and a carriage return. -/
theorem password_logs_in_iff_blank :
    (∃ cookie, (ConsoleAuth.run bareConsole { file := none, now := noon }
        [.changePassword none "" " pass\rword "]).login bareConsole "pass\nword" [7] = .ok cookie)
      ∧ ¬ ∃ cookie, (ConsoleAuth.run bareConsole { file := none, now := noon }
        [.changePassword none "" " pass\rword "]).login bareConsole " pass\rword " [7]
          = .ok cookie := by
  have hchosen : (ConsoleAuth.run bareConsole { file := none, now := noon }
      [.changePassword none "" " pass\rword "]).chosen = some " pass\rword " := by
    decide +kernel
  have hlogs := password_logs_in_iff bareConsole none noon [.changePassword none "" " pass\rword "]
    rfl hchosen [7]
  refine ⟨(hlogs.1 _).mpr (by decide +kernel), fun h => ?_⟩
  exact absurd (hlogs.2.mp h).1 (by decide +kernel)

end EdgeSensor.Console
