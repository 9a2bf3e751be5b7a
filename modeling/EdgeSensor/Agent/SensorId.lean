import EdgeSensor.Py.Regex

/-!
# The sensor id (`sensor_id_resolve.py`)

A sensor without an id of its own takes one from its host name. `sanitize_sensor_token` makes runs
of anything but letters, digits and `_` one `-`, takes the separators off both ends, and cuts what
is left to 64 characters; `sensor_id_from_hostname` puts a prefix in front and cuts once more. A
cut may end in a separator, which is what has just been taken off the ends.

It does exactly where the last place that is kept is a separator's: `CutAt` says so of the lower-cased
value, `CutId` of host and prefix.

Mirroring notes:
- `lower` is Python's own; of ASCII it makes lower case (`LowerCase`).
- `lru_cache` is left out: what the host answers is fixed.
-/

namespace EdgeSensor.Agent

open EdgeSensor.Lib EdgeSensor.Py EdgeSensor.Py.Regex

/-- `str.lower`. -/
structure LowerCase where
  lower : PyStr → PyStr
  lower_ascii : ∀ s : PyStr, (∀ c ∈ s, c < 128) →
    lower s = s.map fun c => if 65 ≤ c ∧ c ≤ 90 then c + 32 else c

/-- What the machine says of its name. -/
structure HostNames where
  /-- `/etc/hostname`, if it can be read -/
  file : Option PyStr
  /-- `socket.gethostname()`, if it does not raise -/
  socket : Option PyStr

/-- `[a-z0-9]` -/
def isLowerOrDigit (c : Nat) : Bool := (97 ≤ c && c ≤ 122) || (48 ≤ c && c ≤ 57)

/-- `[a-z0-9_-]` -/
def isTokenPoint (c : Nat) : Bool := isLowerOrDigit c || c == 95 || c == 45

def isDashPoint (c : Nat) : Bool := c == 45

/-- `-` and `_`. -/
def isSeparatorPoint (c : Nat) : Bool := c == 45 || c == 95

def maxLen : Nat := 64

def defaultPrefix : PyStr := lit "ot-edge"

/-- `s.replace(a, b)`, of one character each. -/
def replacePoint (a b : Nat) (s : PyStr) : PyStr := s.map fun c => if c = a then b else c

/-- `text.split(".")[0]` -/
def beforeDot (s : PyStr) : PyStr := s.takeWhile fun c => c != 46

/-- `_read_hostname_file`. -/
def HostNames.readHostnameFile (names : HostNames) : PyStr :=
  match names.file with
  | none => []
  | some text => beforeDot text.strip

/-- `get_hostname`. -/
def HostNames.getHostname (names : HostNames) : PyStr :=
  if names.readHostnameFile = [] then
    match names.socket with
    | none => []
    | some name => beforeDot name.strip
  else beforeDot names.readHostnameFile.strip

namespace LowerCase

variable (text : LowerCase)

/-- `value.strip().lower()` -/
def fold (value : PyStr) : PyStr := text.lower value.strip

/-- `sanitize_sensor_token`. -/
def sanitizeSensorToken (value : PyStr) : PyStr :=
  let cleaned := replacePoint 32 45 (replacePoint 46 45 (text.fold value))
  let cleaned := sub (plus true fun c => !isTokenPoint c) (fun _ => [45]) cleaned
  let cleaned := trimBy isSeparatorPoint (sub (plus true isDashPoint) (fun _ => [45]) cleaned)
  cleaned.take maxLen

/-- `sanitize_sensor_token(value) or default`. -/
def tokenOr (default value : PyStr) : PyStr :=
  if text.sanitizeSensorToken value = [] then default else text.sanitizeSensorToken value

/-- `host.startswith(f"{pref}-") or host == pref`. -/
def hasPrefix (host pref : PyStr) : Bool := pref ++ [45] <+: host || host = pref

/-- `sensor_id_from_hostname`. -/
def sensorIdFromHostname (names : HostNames) (idPrefix : PyStr) : PyStr :=
  let host := text.tokenOr (lit "unknown") names.getHostname
  let pref := text.tokenOr defaultPrefix idPrefix
  let sensorId := if hasPrefix host pref then host else pref ++ [45] ++ host
  sensorId.take maxLen

end LowerCase

/-! ## Tokens -/

/-- At most 64 characters of `[a-z0-9_-]`, and no separator at either end. -/
structure IsToken (s : PyStr) : Prop where
  length_le : s.length ≤ maxLen
  points : ∀ c ∈ s, isTokenPoint c = true
  head : ∀ c, s.head? = some c → isSeparatorPoint c = false
  last : ∀ c, s.getLast? = some c → isSeparatorPoint c = false

/-- What stands for a `-`, in a run of any length. -/
def isGap (c : Nat) : Bool := !(isLowerOrDigit c || c == 95)

/-- What no token starts or ends with. -/
def isEdge (c : Nat) : Bool := !isLowerOrDigit c

theorem isEdge_of_isGap (c : Nat) (h : isGap c = true) : isEdge c = true := by
  rw [isGap, Bool.not_or, Bool.and_eq_true] at h
  exact h.1

theorem isGap_dash : isGap 45 = true := by decide

theorem isEdge_dash : isEdge 45 = true := by decide

/-- In a token the edges are the separators. -/
theorem isSeparatorPoint_eq {c : Nat} (h : isTokenPoint c = true) :
    isSeparatorPoint c = isEdge c := by
  unfold isTokenPoint isLowerOrDigit at h
  unfold isSeparatorPoint isEdge isLowerOrDigit
  rw [Bool.eq_iff_iff]
  simp only [Bool.or_eq_true, Bool.and_eq_true, decide_eq_true_eq, beq_iff_eq, Bool.not_eq_true',
    Bool.or_eq_false_iff, Bool.and_eq_false_iff, decide_eq_false_iff_not] at h ⊢
  omega

theorem isTokenPoint_of_not_isGap {c : Nat} (h : isGap c = false) : isTokenPoint c = true := by
  rw [isGap, Bool.not_eq_false'] at h
  rw [isTokenPoint, h, Bool.true_or]

/-- `.` and ` ` are in gaps, as `-` is. -/
theorem isGap_replaced {a : Nat} (ha : isGap a = true) (c : Nat) :
    isGap (if c = a then 45 else c) = isGap c := by
  split
  next hc => rw [hc, ha, isGap_dash]
  next => rfl

theorem squeeze_replacePoint {a : Nat} (ha : isGap a = true) (s : PyStr) :
    squeeze isGap 45 false (replacePoint a 45 s) = squeeze isGap 45 false s := by
  refine squeeze_map (isGap_replaced ha) (fun c hc => if_neg ?_) false s
  rintro rfl
  rw [ha] at hc
  cases hc

/-- The points of what has been squeezed. -/
theorem isTokenPoint_of_mem_squeeze {c : Nat} {s : PyStr} (h : c ∈ squeeze isGap 45 false s) :
    isTokenPoint c = true := by
  rcases mem_squeeze h with rfl | ⟨-, hgap⟩
  · decide
  · exact isTokenPoint_of_not_isGap hgap

namespace LowerCase

variable (text : LowerCase)

/-- The token before it is cut, whose runs have been squeezed and whose edges have been trimmed. -/
def wholeToken (value : PyStr) : PyStr := trimBy isEdge (squeeze isGap 45 false (text.fold value))

theorem sanitizeSensorToken_eq (value : PyStr) :
    text.sanitizeSensorToken value = (text.wholeToken value).take maxLen := by
  have hgap : ∀ c, isGap c = (!isTokenPoint c || isDashPoint c) := by
    intro c
    by_cases hdash : c = 45
    · rw [hdash]
      rfl
    · have hne : (c == 45) = false := beq_false_of_ne hdash
      rw [isGap, isTokenPoint, isDashPoint, hne, Bool.or_false, Bool.or_false]
  have hsqueezed : sub (plus true isDashPoint) (fun _ => [45])
      (sub (plus true fun c => !isTokenPoint c) (fun _ => [45])
        (replacePoint 32 45 (replacePoint 46 45 (text.fold value))))
      = squeeze isGap 45 false (text.fold value) := by
    rw [sub_plus, sub_plus, squeeze_squeeze hgap rfl _ fun h => h,
      squeeze_replacePoint (by decide), squeeze_replacePoint (by decide)]
  unfold sanitizeSensorToken wholeToken
  dsimp only
  rw [hsqueezed, trimBy_congr fun c hc => isSeparatorPoint_eq (isTokenPoint_of_mem_squeeze hc)]

end LowerCase

/-- What a token may start with: its points, and no separator in front. -/
structure Begins (s : PyStr) : Prop where
  points : ∀ c ∈ s, isTokenPoint c = true
  head : ∀ c, s.head? = some c → isEdge c = false

/-- The last character is none of a token's. -/
def EndsAtEdge (s : PyStr) : Prop := ∃ c, s.getLast? = some c ∧ isEdge c = true

/-- Then the last character decides. -/
theorem Begins.isToken_iff {s : PyStr} (h : Begins s) (hlen : s.length ≤ maxLen) :
    IsToken s ↔ ¬ EndsAtEdge s := by
  have hpoint : ∀ {c}, s.getLast? = some c → isSeparatorPoint c = isEdge c := fun hc =>
    isSeparatorPoint_eq (h.points _ (List.mem_of_getLast? hc))
  constructor
  · rintro htoken ⟨c, hc, hedge⟩
    rw [← hpoint hc, htoken.last c hc] at hedge
    cases hedge
  · intro hlast
    refine ⟨hlen, h.points, fun c hc => ?_, fun c hc => ?_⟩
    · rw [isSeparatorPoint_eq (h.points c (List.mem_of_head? hc))]
      exact h.head c hc
    · rw [hpoint hc]
      exact Bool.eq_false_iff.mpr fun hedge => hlast ⟨c, hc, hedge⟩

theorem Begins.of_isPrefix {s u : PyStr} (h : Begins s) (hu : u <+: s) : Begins u := by
  obtain ⟨v, rfl⟩ := hu
  refine ⟨fun c hc => h.points c (List.mem_append_left v hc), fun c hc => h.head c ?_⟩
  obtain ⟨t, rfl⟩ := List.head?_eq_some_iff.mp hc
  rfl

theorem isSpacePoint_of_isTokenPoint {c : Nat} (h : isTokenPoint c = true) :
    isSpacePoint c = false := by
  unfold isTokenPoint isLowerOrDigit at h
  unfold isSpacePoint
  simp only [Bool.or_eq_true, Bool.and_eq_true, decide_eq_true_eq, beq_iff_eq,
    Bool.or_eq_false_iff, Bool.and_eq_false_iff, decide_eq_false_iff_not] at h ⊢
  omega

theorem lt_of_isTokenPoint {c : Nat} (h : isTokenPoint c = true) :
    c < 128 ∧ ¬ (65 ≤ c ∧ c ≤ 90) := by
  unfold isTokenPoint isLowerOrDigit at h
  simp only [Bool.or_eq_true, Bool.and_eq_true, decide_eq_true_eq, beq_iff_eq] at h
  omega

namespace LowerCase

variable (text : LowerCase)

/-- A text over the points of a token stays as it is. -/
theorem fold_eq_self {s : PyStr} (h : ∀ c ∈ s, isTokenPoint c = true) : text.fold s = s := by
  have hstrip : PyStr.strip s = s :=
    trimBy_eq_self
      (fun c hc => isSpacePoint_of_isTokenPoint (h c (List.mem_of_head? hc)))
      (fun c hc => isSpacePoint_of_isTokenPoint (h c (List.mem_of_getLast? hc)))
  rw [fold, hstrip, text.lower_ascii s fun c hc => (lt_of_isTokenPoint (h c hc)).1]
  refine (List.map_congr_left fun c hc => ?_).trans (List.map_id s)
  exact if_neg (lt_of_isTokenPoint (h c hc)).2

theorem wholeToken_begins (value : PyStr) : Begins (text.wholeToken value) where
  points _ hc := isTokenPoint_of_mem_squeeze ((isInfix_trimBy isEdge _).subset hc)
  head _ hc := trimBy_head hc

/-- A beginning of a whole token that is a token is made to itself. -/
theorem sanitizeSensorToken_of_prefix {value u : PyStr} (hu : u <+: text.wholeToken value)
    (htoken : IsToken u) : text.sanitizeSensorToken u = u := by
  have hbegins := (text.wholeToken_begins value).of_isPrefix hu
  rw [wholeToken, trimBy_squeeze isEdge_of_isGap isEdge_dash] at hu
  have hlast : ∀ c, u.getLast? = some c → isEdge c = false := by
    intro c hc
    rw [← isSeparatorPoint_eq (htoken.points c (List.mem_of_getLast? hc))]
    exact htoken.last c hc
  rw [sanitizeSensorToken_eq, wholeToken, fold_eq_self text htoken.points,
    squeeze_of_prefix isGap_dash hu, trimBy_eq_self hbegins.head hlast]
  exact List.take_of_length_le htoken.length_le

/-- A value is made a token, once and for all, unless the cut is at a separator. -/
theorem sanitizeSensorToken_iff (value : PyStr) :
    (IsToken (text.sanitizeSensorToken value)
        ∧ text.sanitizeSensorToken (text.sanitizeSensorToken value) = text.sanitizeSensorToken value)
      ↔ ¬ CutAt isGap isEdge maxLen (text.fold value) := by
  have hprefix : text.sanitizeSensorToken value <+: text.wholeToken value := by
    rw [sanitizeSensorToken_eq]
    exact List.take_prefix _ _
  have hlen : (text.sanitizeSensorToken value).length ≤ maxLen := by
    rw [sanitizeSensorToken_eq]
    exact List.length_take_le _ _
  have htoken := ((text.wholeToken_begins value).of_isPrefix hprefix).isToken_iff hlen
  rw [cutAt_iff isEdge_of_isGap isEdge_dash, ← wholeToken, ← sanitizeSensorToken_eq, ← EndsAtEdge,
    ← htoken]
  constructor
  · exact fun h => h.1
  · exact fun h => ⟨h, text.sanitizeSensorToken_of_prefix hprefix h⟩

/-! ## Host and prefix -/

/-- How many characters a lower-cased prefix gets: those of `ot-edge` if there is none. -/
def prefixPlaces (folded : PyStr) : Nat :=
  if trimBy isEdge folded = [] then defaultPrefix.length
  else min maxLen (places isGap false (trimBy isEdge folded))

/-- The 64 characters of the id end at a separator: of the host name if it begins with the prefix,
else of the prefix, or at the `-` behind it, or at one of the host name. -/
def CutId (host idPrefix : PyStr) : Prop :=
  if hasPrefix (text.tokenOr (lit "unknown") host) (text.tokenOr defaultPrefix idPrefix) then
    CutAt isGap isEdge maxLen (text.fold host)
  else if prefixPlaces (text.fold idPrefix) = maxLen then
    CutAt isGap isEdge maxLen (text.fold idPrefix)
  else prefixPlaces (text.fold idPrefix) + 1 = maxLen
    ∨ CutAt isGap isEdge (maxLen - (prefixPlaces (text.fold idPrefix) + 1)) (text.fold host)

theorem wholeToken_eq_squeeze (value : PyStr) :
    text.wholeToken value = squeeze isGap 45 false (trimBy isEdge (text.fold value)) :=
  trimBy_squeeze isEdge_of_isGap isEdge_dash false _

theorem sanitizeSensorToken_eq_nil_iff (value : PyStr) :
    text.sanitizeSensorToken value = [] ↔ trimBy isEdge (text.fold value) = [] := by
  rw [sanitizeSensorToken_eq, List.take_eq_nil_iff, wholeToken_eq_squeeze, squeeze_eq_nil_iff]
  exact or_iff_right (by decide)

theorem length_tokenOr (value : PyStr) :
    (text.tokenOr defaultPrefix value).length = prefixPlaces (text.fold value) := by
  unfold tokenOr prefixPlaces
  by_cases h : text.sanitizeSensorToken value = []
  · rw [if_pos h, if_pos ((text.sanitizeSensorToken_eq_nil_iff value).mp h)]
  · rw [if_neg h, if_neg fun hnil => h ((text.sanitizeSensorToken_eq_nil_iff value).mpr hnil),
      sanitizeSensorToken_eq, List.length_take, wholeToken_eq_squeeze, length_squeeze]

/-- What a token, or what stands for it, is like. -/
theorem tokenOr_begins {default : PyStr} (h : Begins default) (value : PyStr) :
    Begins (text.tokenOr default value) := by
  unfold tokenOr
  split
  next => exact h
  next =>
    rw [sanitizeSensorToken_eq]
    exact (text.wholeToken_begins value).of_isPrefix (List.take_prefix _ _)

theorem tokenOr_ne_nil {default : PyStr} (h : default ≠ []) (value : PyStr) :
    text.tokenOr default value ≠ [] := by
  unfold tokenOr
  split
  next => exact h
  next hne => exact hne

/-- A token, or what stands for it, ends at a separator where the value is cut at one. -/
theorem tokenOr_take_iff {default : PyStr} {n : Nat} (hn : n ≤ maxLen)
    (h : ¬ EndsAtEdge (default.take n)) (value : PyStr) :
    EndsAtEdge ((text.tokenOr default value).take n) ↔ CutAt isGap isEdge n (text.fold value) := by
  rw [cutAt_iff isEdge_of_isGap isEdge_dash, ← wholeToken, ← EndsAtEdge]
  unfold tokenOr
  split
  next hnil =>
    have hwhole : text.wholeToken value = [] := by
      rw [wholeToken_eq_squeeze, squeeze_eq_nil_iff, ← sanitizeSensorToken_eq_nil_iff]
      exact hnil
    rw [hwhole, List.take_nil]
    refine iff_of_false h ?_
    rintro ⟨c, hc, -⟩
    cases hc
  next => rw [sanitizeSensorToken_eq, List.take_take, Nat.min_eq_left hn]

theorem unknown_last (n : Nat) :
    ¬ EndsAtEdge ((lit "unknown").take n) := by
  rintro ⟨c, hc, hedge⟩
  have hall : ∀ c ∈ lit "unknown", isEdge c = false := by decide
  rw [hall c (List.mem_of_mem_take (List.mem_of_getLast? hc))] at hedge
  cases hedge

theorem defaultPrefix_last : ¬ EndsAtEdge (defaultPrefix.take maxLen) := by
  rintro ⟨c, hc, hedge⟩
  obtain rfl : 101 = c := Option.some.inj hc
  cases hedge

end LowerCase

theorem Begins.join {pref host : PyStr} (hpref : Begins pref) (hne : pref ≠ [])
    (hhost : Begins host) : Begins (pref ++ [45] ++ host) where
  points c hc := by
    rw [List.append_assoc, List.mem_append, List.singleton_append, List.mem_cons] at hc
    rcases hc with hc | rfl | hc
    · exact hpref.points c hc
    · decide
    · exact hhost.points c hc
  head c hc := by
    refine hpref.head c ?_
    rw [List.append_assoc, List.head?_append_of_ne_nil _ hne] at hc
    exact hc

/-- Where the cut of prefix and host name falls. -/
theorem endsAtEdge_join_iff {pref host : PyStr} (hlen : pref.length ≤ maxLen) (hne : host ≠ []) :
    EndsAtEdge ((pref ++ [45] ++ host).take maxLen) ↔
      if pref.length = maxLen then EndsAtEdge (pref.take maxLen)
      else pref.length + 1 = maxLen ∨ EndsAtEdge (host.take (maxLen - (pref.length + 1))) := by
  split
  next hfull =>
    rw [List.append_assoc, List.take_append_of_le_length (Nat.le_of_eq hfull.symm)]
  next hnot =>
    have hshort : (pref ++ [45]).length ≤ maxLen := by
      rw [List.length_append, List.length_singleton]
      omega
    rw [List.take_append, List.take_of_length_le hshort, List.length_append, List.length_singleton]
    by_cases hlast : pref.length + 1 = maxLen
    · rw [hlast, Nat.sub_self, List.take_zero, List.append_nil]
      exact iff_of_true ⟨45, List.getLast?_concat, isEdge_dash⟩ (.inl rfl)
    · have hsome : host.take (maxLen - (pref.length + 1)) ≠ [] := by
        rw [Ne, List.take_eq_nil_iff, not_or]
        exact ⟨by omega, hne⟩
      rw [or_iff_right hlast, EndsAtEdge, List.getLast?_append_of_ne_nil _ hsome, ← EndsAtEdge]

namespace LowerCase

variable (text : LowerCase)

/-- An id is a token unless it is cut at a separator. -/
theorem sensorIdFromHostname_iff (names : HostNames) (idPrefix : PyStr) :
    IsToken (text.sensorIdFromHostname names idPrefix)
      ↔ ¬ text.CutId names.getHostname idPrefix := by
  have hhost : Begins (text.tokenOr (lit "unknown") names.getHostname) :=
    text.tokenOr_begins ⟨by decide, fun c hc => by cases hc; rfl⟩ _
  have hpref : Begins (text.tokenOr defaultPrefix idPrefix) :=
    text.tokenOr_begins ⟨by decide, fun c hc => by cases hc; rfl⟩ _
  have hhostCut := fun n (hn : n ≤ maxLen) =>
    text.tokenOr_take_iff hn (unknown_last n) names.getHostname
  unfold sensorIdFromHostname CutId
  dsimp only
  split
  next =>
    have hbegins := hhost.of_isPrefix (List.take_prefix maxLen _)
    rw [hbegins.isToken_iff (List.length_take_le _ _), hhostCut maxLen (Nat.le_refl _)]
  next =>
    have hjoined := hpref.join (text.tokenOr_ne_nil (by decide) _) hhost
    have hlen : prefixPlaces (text.fold idPrefix) ≤ maxLen := by
      unfold prefixPlaces
      split
      next => decide
      next => exact Nat.min_le_left _ _
    rw [(hjoined.of_isPrefix (List.take_prefix maxLen _)).isToken_iff (List.length_take_le _ _),
      endsAtEdge_join_iff (by rw [length_tokenOr]; exact hlen) (text.tokenOr_ne_nil (by decide) _),
      length_tokenOr, text.tokenOr_take_iff (Nat.le_refl maxLen) defaultPrefix_last,
      hhostCut _ (Nat.sub_le _ _)]

/-- **Tokens.** Which values are made tokens once and for all, and which host names and prefixes
give a token for an id. -/
theorem tokens_iff_not_cut :
    (∀ value, (IsToken (text.sanitizeSensorToken value)
        ∧ text.sanitizeSensorToken (text.sanitizeSensorToken value) = text.sanitizeSensorToken value)
      ↔ ¬ CutAt isGap isEdge maxLen (text.fold value))
    ∧ ∀ (names : HostNames) (idPrefix : PyStr),
      IsToken (text.sensorIdFromHostname names idPrefix)
        ↔ ¬ text.CutId names.getHostname idPrefix :=
  ⟨text.sanitizeSensorToken_iff, text.sensorIdFromHostname_iff⟩

end LowerCase

/-- `lower` of a text that is ASCII. -/
def asciiLower : LowerCase where
  lower s := s.map fun c => if 65 ≤ c ∧ c ≤ 90 then c + 32 else c
  lower_ascii _ _ := rfl

/-- Many letters, a dash and a letter. -/
def longName (letters : Nat) : PyStr := List.replicate letters 97 ++ lit "-b"

/-- A value of 65 characters, and a host name of 57, whose tokens end in the dash. -/
theorem longName_not_token :
    (¬ ∀ (text : LowerCase) (value : PyStr), IsToken (text.sanitizeSensorToken value)
        ∧ text.sanitizeSensorToken (text.sanitizeSensorToken value)
          = text.sanitizeSensorToken value)
    ∧ ¬ ∀ (text : LowerCase) (names : HostNames) (idPrefix : PyStr),
      IsToken (text.sensorIdFromHostname names idPrefix) := by
  constructor
  · intro hclaim
    have hend : (asciiLower.sanitizeSensorToken (longName 63)).getLast? = some 45 := by
      decide +kernel
    exact absurd ((hclaim asciiLower (longName 63)).1.last 45 hend) (by decide)
  · intro hclaim
    have hend : (asciiLower.sensorIdFromHostname ⟨none, some (longName 55)⟩ defaultPrefix).getLast?
        = some 45 := by
      decide +kernel
    exact absurd ((hclaim asciiLower _ defaultPrefix).last 45 hend) (by decide)

end EdgeSensor.Agent
