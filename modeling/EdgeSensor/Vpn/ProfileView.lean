import EdgeSensor.Py.Lines
import EdgeSensor.Py.Regex
import EdgeSensor.Vpn.CommandRuns

/-!
# A profile as it is shown (`view_profile` in `vpn_service.py`)

A profile is shown with its secrets masked: blocks between tags first, then lines. Two profiles
that differ in the body of one closed block are shown alike (`view_hides_block`), whatever stands
around the block.

A match of `_SECRET_BLOCK_RE` may begin in front of the block, at a tag that has been left open.
It ends at a closing tag, and there is none inside the body: so it ends in front of the block,
with the same text still to come, or behind the body (`firstClose_twin`).

Mirroring notes:
- A file is its characters, decoded; `\r\n` and `\r` are still as they are on the disk.
- `lower` and the digits beyond ASCII are the parameter `ViewText`.
-/

namespace EdgeSensor.Vpn

open EdgeSensor.Lib EdgeSensor.Py EdgeSensor.Py.Regex

/-- What the Unicode tables say. -/
structure ViewText where
  lower : PyStr → PyStr
  isDecimal : Nat → Bool

/-- `\s` -/
def space : Nat → Bool := isSpacePoint

/-- `\S` -/
def nonSpace (c : Nat) : Bool := !isSpacePoint c

/-- `\d` -/
def ViewText.digit (text : ViewText) (c : Nat) : Bool :=
  if c < 128 then 48 ≤ c && c ≤ 57 else text.isDecimal c

/-! ## Masking -/

/-- The tags of `_SECRET_BLOCK_RE`. -/
def secretTags : List String := ["key", "tls-auth", "tls-crypt", "tls-crypt-v2", "secret"]

/-- `<(key|tls-auth|tls-crypt|tls-crypt-v2|secret)>` -/
def openTag : Regex :=
  .seq (.char (· == 60)) (.seq (.group 1 (anyOf (secretTags.map anyCase))) (.char (· == 62)))

/-- `</\1>` -/
def closeTag : Regex := .seq (word "</") (.seq (.backref 1 sameLower) (.char (· == 62)))

/-- `_SECRET_BLOCK_RE`. -/
def secretBlockRe : Regex := .seq openTag (.seq (.many false fun _ => true) closeTag)

/-- `_SECRET_LINE_RE`. -/
def secretLineRe : Regex :=
  .seq .lineStart (.seq (.many true space)
    (.seq (.group 1 (anyOf [anyCase "askpass", anyCase "auth-user-pass"]))
      (.seq (plus true space) (.seq (.char nonSpace) (.seq (.many true (· != 10)) .lineEnd)))))

/-- `m.group(1)`. -/
def groupOne (groups : List (Nat × PyStr)) : PyStr := (Dict.get? groups 1).getD []

/-- `f"<{m.group(1)}>\n*** 已遮蔽（機敏內容）***\n</{m.group(1)}>"`. -/
def maskedBlock (groups : List (Nat × PyStr)) : PyStr :=
  lit "<" ++ groupOne groups ++ lit ">\n*** 已遮蔽（機敏內容）***\n</" ++ groupOne groups ++ lit ">"

/-- `r"\g<1> *** 已遮蔽 ***"`. -/
def maskedLine (groups : List (Nat × PyStr)) : PyStr := groupOne groups ++ lit " *** 已遮蔽 ***"

/-- Both substitutions. -/
def maskSecrets (text : PyStr) : PyStr :=
  secretLineRe.sub maskedLine (secretBlockRe.sub maskedBlock text)

/-! ## What else is shown -/

/-- `_extract_remote`. -/
def extractRemote (text : ViewText) (profile : PyStr) : Option PyStr :=
  let found := search
    (.seq .lineStart (.seq (.many true space) (.seq (anyCase "remote") (.seq (plus true space)
      (.seq (.group 1 (plus true nonSpace))
        (opt (.seq (plus true space) (.group 2 (plus true text.digit)))))))))
    profile
  found.map fun m =>
    match group? m 2 with
    | some port => (group? m 1).getD [] ++ lit ":" ++ port
    | none => (group? m 1).getD []

/-- `needs_auth`. -/
def needsAuth (profile : PyStr) : Bool :=
  (search (.seq .lineStart (.seq (.many true space) (.seq (anyCase "auth-user-pass")
    (.seq (.many true space) .lineEnd)))) profile).isSome

/-- `profile_warnings`. -/
def profileWarnings (text : ViewText) (profile : PyStr) : List String :=
  let scripts := search
    (.seq .lineStart (.seq (.many true space)
      (.seq (.group 1 (anyOf [anyCase "up", anyCase "down", anyCase "route-up", anyCase "tls-verify"]))
        (plus true space)))) profile
  let low := text.lower profile
  let asks := search (word "auth-user-pass") low
  let inFile := search (.seq (word "auth-user-pass") (.seq (plus true space) (.char nonSpace))) low
  (if scripts.isSome then
      ["設定檔含 up/down 等腳本指令；本機以 --script-security 1 執行，這些腳本不會被執行。"] else [])
    ++ (if asks.isSome && inFile.isNone then
      ["設定檔需要帳號/密碼（auth-user-pass），連線時請一併提供。"] else [])

/-- What `view_profile` returns. -/
inductive ProfileView where
  | refused (status : Nat) (error : String)
  | shown (name : String) (content : PyStr) (remote : Option PyStr) (needsAuth : Bool)
      (warnings : List String)

/-- The field `content`. -/
def ProfileView.content : ProfileView → Option PyStr
  | .refused _ _ => none
  | .shown _ content _ _ _ => some content

/-- `view_profile`; `read` is the file of a profile, or why it cannot be read. -/
def VpnConsole.viewProfile (console : VpnConsole) (text : ViewText)
    (read : String → Except String PyStr) (name : String) : ProfileView :=
  if !console.hasPath name then .refused 400 "設定檔名稱無效"
  else if !console.profiles.isFile name then .refused 404 ("找不到設定檔 " ++ name)
  else
    match read name with
    | .error exc => .refused 500 ("讀取失敗：" ++ exc)
    | .ok file =>
      let profile := universalNewlines file
      .shown name (maskSecrets profile) (extractRemote text profile) (needsAuth profile)
        (profileWarnings text profile)

/-! ## Tags -/

section Tags

variable {start : Bool} {s t u w post : PyStr} {opening closing name : PyStr} {done : Cursor}
  {b : PyStr} {c : Nat}

/-- `_SECRET_BLOCK_RE` takes the word for one of its tags. -/
def IsTag (w : PyStr) : Prop :=
  ∃ tag ∈ secretTags, List.Forall₂ (fun p c => p c = true) ((lit tag).map ignoreCase) w

/-- A tag, its letters in either case. -/
def CaseOf (w : PyStr) (tag : String) : Prop := w.map lowerPoint = lit tag

instance (w : PyStr) (tag : String) : Decidable (CaseOf w tag) :=
  inferInstanceAs (Decidable (w.map lowerPoint = lit tag))

theorem ignoreCase_of_lower {n c : Nat} (h : lowerPoint c = n) : ignoreCase n c = true := by
  unfold ignoreCase
  rw [decide_eq_true h]
  rfl

theorem CaseOf.isTag {tag : String} (htag : tag ∈ secretTags) (h : CaseOf w tag) : IsTag w := by
  refine ⟨tag, htag, ?_⟩
  unfold CaseOf at h
  rw [← h, List.map_map, List.forall₂_map_left_iff]
  exact List.forall₂_same.mpr fun c _ => ignoreCase_of_lower rfl

/-- No tag has an angle bracket, a slash or a line end in it. -/
theorem IsTag.not_mem (h : IsTag w) : ∀ c ∈ [60, 62, 47, 10, 13], c ∉ w := by
  intro c hc hmem
  obtain ⟨tag, htag, hw⟩ := h
  have hno : ∀ tag ∈ secretTags, ∀ p ∈ (lit tag).map ignoreCase,
      ∀ c ∈ [60, 62, 47, 10, 13], p c = false := by decide
  obtain ⟨p, hp, hpc⟩ := exists_class hw hmem
  rw [hno tag htag p hp c hc] at hpc
  cases hpc

/-- What an opening tag is. -/
theorem mem_run_openTag : done ∈ run openTag ⟨start, s, []⟩
    ↔ ∃ w t, s = 60 :: (w ++ 62 :: t) ∧ IsTag w ∧ done = ⟨false, t, [(1, w)]⟩ := by
  have hword : ∀ cur d, d ∈ run (anyOf (secretTags.map anyCase)) cur
      ↔ ∃ w t, cur.rest = w ++ t ∧ IsTag w ∧ d = ⟨startAfter cur.atStart w, t, cur.groups⟩ := by
    intro cur d
    rw [mem_run_anyOf]
    constructor
    · rintro ⟨r, hr, hd⟩
      obtain ⟨tag, htag, rfl⟩ := List.mem_map.mp hr
      obtain ⟨w, t, hs, hw, hdone⟩ := mem_run_classes.mp hd
      exact ⟨w, t, hs, ⟨tag, htag, hw⟩, hdone⟩
    · rintro ⟨w, t, hs, ⟨tag, htag, hw⟩, hdone⟩
      exact ⟨anyCase tag, List.mem_map_of_mem htag, mem_run_classes.mpr ⟨w, t, hs, hw, hdone⟩⟩
  unfold openTag
  rw [mem_run_seq]
  constructor
  · rintro ⟨mid, hmid, hdone⟩
    obtain ⟨c, s', hs, hc, rfl⟩ := mem_run_char.mp hmid
    obtain ⟨mid', hmid', hend⟩ := mem_run_seq.mp hdone
    obtain ⟨inner, hinner, w, hw, rfl⟩ := mem_run_group.mp hmid'
    obtain ⟨w', t, hs', htag, rfl⟩ := (hword _ _).mp hinner
    obtain ⟨d, t', ht, hd, rfl⟩ := mem_run_char.mp hend
    obtain rfl := beq_iff_eq.mp hc
    obtain rfl := beq_iff_eq.mp hd
    obtain rfl : t = 62 :: t' := ht
    obtain rfl : w = w' := List.append_cancel_right (hw.symm.trans hs')
    refine ⟨w, t', ?_, htag, rfl⟩
    rw [← hs']
    exact hs
  · rintro ⟨w, t, rfl, htag, rfl⟩
    refine ⟨⟨false, w ++ 62 :: t, []⟩, mem_run_char.mpr ⟨60, _, rfl, rfl, rfl⟩, ?_⟩
    rw [mem_run_seq]
    refine ⟨⟨startAfter false w, 62 :: t, [(1, w)]⟩, mem_run_group.mpr ?_,
      mem_run_char.mpr ⟨62, t, rfl, rfl, rfl⟩⟩
    exact ⟨_, (hword _ _).mpr ⟨w, 62 :: t, rfl, htag, rfl⟩, w, rfl, rfl⟩

end Tags

/-! ## The first closing tag -/

section Close

variable {start : Bool} {s t u w post : PyStr} {opening closing name body body' : PyStr} {c : Nat}

/-- What `</\1>` reads, character by character. -/
def closeClasses (name : PyStr) : List (Nat → Bool) :=
  (· == 60) :: (· == 47) :: (name.map sameLower ++ [(· == 62)])

theorem matchAt_closeTag (name : PyStr) (start : Bool) (s : PyStr) :
    matchAt closeTag ⟨start, s, [(1, name)]⟩
      = Cursor.through (closeClasses name) ⟨start, s, [(1, name)]⟩ := by
  have hback : ∀ cur : Cursor, cur.groups = [(1, name)] →
      run (.seq (.backref 1 sameLower) (.char (· == 62))) cur
        = (cur.through (name.map sameLower ++ [(· == 62)])).toList := by
    rintro ⟨start, s, groups⟩ rfl
    rw [run, through_append]
    show (Cursor.through (name.map sameLower) ⟨start, s, [(1, name)]⟩).toList.flatMap _ = _
    cases Cursor.through (name.map sameLower) ⟨start, s, [(1, name)]⟩ with
    | none => rfl
    | some d =>
      rw [Option.toList_some, List.flatMap_cons, List.flatMap_nil, List.append_nil]
      rfl
  have hall : closeClasses name
      = (lit "</").map (fun c x => c == x) ++ (name.map sameLower ++ [(· == 62)]) := by
    show _ = (fun x => 60 == x) :: (fun x => 47 == x) :: _
    unfold closeClasses
    rw [show (fun x : Nat => x == 60) = fun x => 60 == x from funext fun x => Bool.beq_comm,
      show (fun x : Nat => x == 47) = fun x => 47 == x from funext fun x => Bool.beq_comm]
    rfl
  unfold matchAt closeTag
  rw [run, word, run_classes, hall, through_append]
  cases hword : Cursor.through ((lit "</").map fun c x => c == x) ⟨start, s, [(1, name)]⟩ with
  | none => rfl
  | some d =>
    obtain ⟨w, t, -, -, rfl⟩ := through_eq_some_iff.mp hword
    rw [Option.toList_some, List.flatMap_cons, List.flatMap_nil, List.append_nil, hback _ rfl]
    exact Option.head?_toList

/-- The end of the first closing tag of a name. -/
def firstClose (name : PyStr) (start : Bool) (s : PyStr) : Option Cursor :=
  matchAt (.seq (.many false fun _ => true) closeTag) ⟨start, s, [(1, name)]⟩

theorem firstClose_cons (name : PyStr) (start : Bool) (c : Nat) (s : PyStr) :
    firstClose name start (c :: s)
      = (Cursor.through (closeClasses name) ⟨start, c :: s, [(1, name)]⟩).or
        (firstClose name (c == 10) s) := by
  unfold firstClose
  rw [matchAt_lazy_cons, matchAt_closeTag, if_pos rfl]

/-- A closing tag begins with its bracket. -/
theorem firstClose_skip (h : 60 ∉ w) (name : PyStr) (start start' : Bool) (t : PyStr) :
    firstClose name start (w ++ 60 :: t) = firstClose name start' (60 :: t) := by
  induction w generalizing start with
  | nil =>
    rw [List.nil_append, firstClose_cons, firstClose_cons]
    rfl
  | cons c w ih =>
    have hc : c ≠ 60 := fun heq => h (heq ▸ List.mem_cons_self)
    have hmiss : Cursor.through (closeClasses name) ⟨start, c :: (w ++ 60 :: t), [(1, name)]⟩
        = none := by
      show (if (c == 60) = true then _ else none) = none
      rw [if_neg fun heq => hc (beq_iff_eq.mp heq)]
    rw [List.cons_append, firstClose_cons, hmiss, Option.none_or]
    exact ih (fun hmem => h (List.mem_cons_of_mem _ hmem)) _

/-- A block, and the text behind it. -/
def block (opening body closing post : PyStr) : PyStr :=
  60 :: (opening ++ 62 :: (body ++ 60 :: 47 :: (closing ++ 62 :: post)))

/-- From the opening tag of a block on, the closing tag of the block is the first there is. -/
theorem firstClose_block (hopening : IsTag opening) (hbody : 60 ∉ body) (name : PyStr)
    (start : Bool) : firstClose name start (block opening body closing post)
      = firstClose name false (60 :: 47 :: (closing ++ 62 :: post)) := by
  have hmem : 60 ∉ opening ++ 62 :: body := by
    intro h
    rcases List.mem_append.mp h with h | h
    · exact hopening.not_mem 60 (by decide) h
    · rcases List.mem_cons.mp h with h | h
      · cases h
      · exact hbody h
  have hslash : (opening ++ 62 :: (body ++ 60 :: 47 :: (closing ++ 62 :: post))).head? ≠ some 47 := by
    cases opening with
    | nil => exact fun h => by cases h
    | cons c opening =>
      intro h
      obtain rfl : c = 47 := Option.some.inj h
      exact hopening.not_mem 47 (by decide) List.mem_cons_self
  have hmiss : Cursor.through (closeClasses name)
      ⟨start, block opening body closing post, [(1, name)]⟩ = none := by
    unfold block closeClasses
    cases hs : opening ++ 62 :: (body ++ 60 :: 47 :: (closing ++ 62 :: post)) with
    | nil => rfl
    | cons c s =>
      rw [hs] at hslash
      show (if (c == 47) = true then _ else none) = none
      rw [if_neg fun h => hslash (congrArg some (beq_iff_eq.mp h))]
  have hskip := firstClose_skip hmem name false false (47 :: (closing ++ 62 :: post))
  rw [List.append_assoc] at hskip
  rw [block, firstClose_cons, ← block, hmiss, Option.none_or]
  exact hskip

/-- The closing tag of a block closes its opening tag. -/
theorem firstClose_own (hlower : opening.map lowerPoint = closing.map lowerPoint) :
    firstClose opening false (60 :: 47 :: (closing ++ 62 :: post))
      = some ⟨false, post, [(1, opening)]⟩ := by
  have hname : List.Forall₂ (fun p c => p c = true) (opening.map sameLower) closing := by
    rw [List.forall₂_map_left_iff]
    have heq : List.Forall₂ (· = ·) (opening.map lowerPoint) (closing.map lowerPoint) :=
      List.forall₂_eq_eq_eq ▸ hlower
    rw [List.forall₂_map_left_iff, List.forall₂_map_right_iff] at heq
    exact heq.imp fun _ _ h => decide_eq_true h
  have hread : Cursor.through (closeClasses opening)
      ⟨false, 60 :: 47 :: (closing ++ 62 :: post), [(1, opening)]⟩
        = some ⟨false, post, [(1, opening)]⟩ := by
    refine through_eq_some_iff.mpr ⟨60 :: 47 :: (closing ++ [62]), post, by simp, ?_, ?_⟩
    · exact .cons rfl (.cons rfl (List.rel_append hname (.cons rfl .nil)))
    · show _ = Cursor.mk (startAfter false ((60 :: 47 :: closing) ++ [62])) post [(1, opening)]
      rw [startAfter_append]
      rfl
  rw [firstClose_cons, hread]
  rfl

end Close

/-! ## Two bodies -/

section Twin

variable {start : Bool} {t u w post : PyStr} {opening closing name body body' : PyStr} {c : Nat}

theorem sameLower_60 {k : Nat} (h : k ≠ 60) : sameLower k 60 = false := by
  have hne : lowerPoint k ≠ 60 := by
    unfold lowerPoint
    split
    next => omega
    next =>
      split
      next => omega
      next =>
        split
        next => omega
        next => exact h
  exact decide_eq_false hne

/-- The first closing tag from somewhere in front of a block: it does not depend on the body, or
the block is still to come. -/
theorem firstClose_twin (hopening : IsTag opening) (hname : IsTag name) (hbody : 60 ∉ body)
    (hbody' : 60 ∉ body') (closing post u : PyStr) (start : Bool) :
    firstClose name start (u ++ block opening body closing post)
        = firstClose name start (u ++ block opening body' closing post)
      ∨ ∃ u' start', u'.length ≤ u.length
        ∧ firstClose name start (u ++ block opening body closing post)
          = some ⟨start', u' ++ block opening body closing post, [(1, name)]⟩
        ∧ firstClose name start (u ++ block opening body' closing post)
          = some ⟨start', u' ++ block opening body' closing post, [(1, name)]⟩ := by
  induction u generalizing start with
  | nil =>
    rw [List.nil_append, List.nil_append, firstClose_block hopening hbody,
      firstClose_block hopening hbody']
    exact .inl rfl
  | cons c u ih =>
    -- behind its first character a closing tag has no bracket that opens
    have hstop : ∀ p ∈ (· == 47) :: (name.map sameLower ++ [(· == 62)]), p 60 = false := by
      intro p hp
      rcases List.mem_cons.mp hp with rfl | hp
      · rfl
      · rcases List.mem_append.mp hp with hp | hp
        · obtain ⟨k, hk, rfl⟩ := List.mem_map.mp hp
          exact sameLower_60 fun heq => hname.not_mem 60 (by decide) (heq ▸ hk)
        · rw [List.mem_singleton.mp hp]
          rfl
    have hfront : ∀ b : PyStr, Cursor.through (closeClasses name)
        ⟨start, c :: (u ++ block opening b closing post), [(1, name)]⟩
          = (Cursor.through (closeClasses name) ⟨start, c :: u, [(1, name)]⟩).map
            (·.followedBy (block opening b closing post)) := by
      intro b
      unfold closeClasses
      simp only [Cursor.through]
      split
      next => exact through_followedBy hstop ⟨c == 10, u, [(1, name)]⟩ _
      next => rfl
    rw [List.cons_append, List.cons_append, firstClose_cons, firstClose_cons, hfront, hfront]
    cases hread : Cursor.through (closeClasses name) ⟨start, c :: u, [(1, name)]⟩ with
    | some d =>
      obtain ⟨w, u', hu, -, rfl⟩ := through_eq_some_iff.mp hread
      refine .inr ⟨u', _, ?_, rfl, rfl⟩
      rw [show (c :: u : PyStr) = w ++ u' from hu, List.length_append]
      exact Nat.le_add_left _ _
    | none =>
      rcases ih (c == 10) with h | ⟨u', start', hlen, h, h'⟩
      · exact .inl h
      · exact .inr ⟨u', start', hlen.trans (Nat.le_succ _), h, h'⟩

/-- An opening tag in front of a block is read there. -/
theorem openTag_front (htag : IsTag w) (b : PyStr) :
    c :: u ++ block opening b closing post = 60 :: (w ++ 62 :: t)
      ↔ ∃ u', c :: u = 60 :: (w ++ 62 :: u') ∧ t = u' ++ block opening b closing post := by
  constructor
  · intro h
    obtain ⟨rfl, hrest⟩ := List.cons.inj h
    rw [List.append_cons w 62 t] at hrest
    rcases List.append_eq_append_iff.mp hrest with ⟨v, hv, hblock⟩ | ⟨u', hu, ht⟩
    · cases v with
      | nil =>
        refine ⟨[], ?_, ?_⟩
        · rw [List.append_nil] at hv
          rw [← hv]
        · exact hblock.symm
      | cons d v =>
        -- the tag would have an opening bracket in it
        obtain ⟨rfl, -⟩ := List.cons.inj hblock
        have hmem : 60 ∈ w ++ [62] := by
          rw [hv]
          exact List.mem_append_right _ List.mem_cons_self
        rcases List.mem_append.mp hmem with hmem | hmem
        · exact absurd hmem (htag.not_mem 60 (by decide))
        · cases List.mem_singleton.mp hmem
    · refine ⟨u', ?_, ht⟩
      rw [hu, ← List.append_cons]
  · rintro ⟨u', hu, rfl⟩
    rw [hu]
    simp

theorem matchAt_secretBlock (htag : IsTag w) (start : Bool) (t : PyStr) :
    matchAt secretBlockRe ⟨start, 60 :: (w ++ 62 :: t), []⟩ = firstClose w false t := by
  refine matchAt_seq_of_unique (mem_run_openTag.mpr ⟨w, t, rfl, htag, rfl⟩) fun d hd => ?_
  obtain ⟨w', t', heq, htag', rfl⟩ := mem_run_openTag.mp hd
  obtain ⟨rfl, rfl⟩ := append_separator_inj (htag.not_mem 62 (by decide))
    (htag'.not_mem 62 (by decide)) (List.cons.inj heq).2
  rfl

theorem rest_of_firstClose {done : Cursor} (h : firstClose w start t = some done) :
    done.rest.length ≤ t.length := by
  obtain ⟨v, hv, -⟩ := run_reads (mem_of_matchAt h)
  rw [show t = v ++ done.rest from hv, List.length_append]
  exact Nat.le_add_left _ _

/-- The pieces from an opening tag on. -/
theorem pieces_openTag (htag : IsTag w) (start : Bool) (t : PyStr) :
    secretBlockRe.pieces 0 start (60 :: (w ++ 62 :: t)) =
      match firstClose w false t with
      | some done => .hit done.groups :: secretBlockRe.pieces 0 done.atStart done.rest
      | none => .char 60 :: secretBlockRe.pieces 0 false (w ++ 62 :: t) := by
  have hmatch := matchAt_secretBlock htag start t
  cases hclose : firstClose w false t with
  | none => exact pieces_miss (hmatch.trans hclose)
  | some done =>
    have hrest := rest_of_firstClose hclose
    refine pieces_hit (hmatch.trans hclose) ?_
    rw [List.length_cons, List.length_append, List.length_cons]
    omega

/-- A closed block is one piece. -/
theorem pieces_block {tag : String} (htag : tag ∈ secretTags) (hopening : CaseOf opening tag)
    (hclosing : CaseOf closing tag) (hbody : 60 ∉ body) (start : Bool) :
    secretBlockRe.pieces 0 start (block opening body closing post)
      = .hit [(1, opening)] :: secretBlockRe.pieces 0 false post := by
  have hbehind := firstClose_skip hbody opening false false (47 :: (closing ++ 62 :: post))
  rw [block, pieces_openTag (hopening.isTag htag), hbehind,
    firstClose_own (hopening.trans hclosing.symm)]

/-- **Two texts that differ in the body of a closed block fall into the same pieces.** -/
theorem pieces_twin {tag : String} (htag : tag ∈ secretTags) (hopening : CaseOf opening tag)
    (hclosing : CaseOf closing tag) (hbody : 60 ∉ body) (hbody' : 60 ∉ body') (post : PyStr)
    (n : Nat) (u : PyStr) (hu : u.length ≤ n) (start : Bool) :
    secretBlockRe.pieces 0 start (u ++ block opening body closing post)
      = secretBlockRe.pieces 0 start (u ++ block opening body' closing post) := by
  induction n generalizing u start with
  | zero =>
    obtain rfl := List.eq_nil_of_length_eq_zero (Nat.le_zero.mp hu)
    exact (pieces_block htag hopening hclosing hbody start).trans
      (pieces_block htag hopening hclosing hbody' start).symm
  | succ n ih =>
    cases u with
    | nil =>
      exact (pieces_block htag hopening hclosing hbody start).trans
        (pieces_block htag hopening hclosing hbody' start).symm
    | cons c u =>
      have hlen : u.length ≤ n := Nat.le_of_succ_le_succ hu
      by_cases hfront : ∃ w u', IsTag w ∧ c :: u = 60 :: (w ++ 62 :: u')
      · obtain ⟨w, u', hw, heq⟩ := hfront
        obtain ⟨rfl, rfl⟩ := List.cons.inj heq
        have hshort : u'.length ≤ n := by
          rw [List.length_append, List.length_cons] at hlen
          omega
        have htext : ∀ b : PyStr, 60 :: (w ++ 62 :: u') ++ block opening b closing post
            = 60 :: (w ++ 62 :: (u' ++ block opening b closing post)) := fun b =>
          (openTag_front hw b).mpr ⟨u', rfl, rfl⟩
        have hrest := ih (w ++ 62 :: u') hlen false
        rw [List.append_assoc, List.append_assoc, List.cons_append, List.cons_append] at hrest
        rw [htext body, htext body', pieces_openTag hw, pieces_openTag hw, hrest]
        rcases firstClose_twin (hopening.isTag htag) hw hbody hbody' closing post u' false with
          h | ⟨v, start', hv, h, h'⟩
        · rw [h]
        · rw [h, h']
          exact congrArg (Piece.hit [(1, w)] :: ·) (ih v (hv.trans hshort) start')
      · have hnone : ∀ b : PyStr,
            matchAt secretBlockRe ⟨start, c :: (u ++ block opening b closing post), []⟩ = none := by
          intro b
          refine matchAt_seq_eq_none fun d hd => hfront ?_
          obtain ⟨w, t, heq, hw, -⟩ := mem_run_openTag.mp hd
          obtain ⟨u', hu', -⟩ := (openTag_front hw b).mp heq
          exact ⟨w, u', hw, hu'⟩
        rw [List.cons_append, List.cons_append, pieces_miss (hnone body), pieces_miss (hnone body'),
          ih u hlen]

/-- The line ends of a file with a block in it: those of the tags are none. -/
theorem universalNewlines_block (hopening : IsTag opening) (hclosing : IsTag closing)
    (before body post : PyStr) :
    universalNewlines (before ++ block opening body closing post)
      = universalNewlines before
        ++ block opening (universalNewlines body) closing (universalNewlines post) := by
  have hclose : universalNewlines (47 :: (closing ++ 62 :: post))
      = 47 :: (closing ++ 62 :: universalNewlines post) := by
    have hplain : ∀ c ∈ [10, 13], c ∉ 47 :: closing := by
      intro c hc hmem
      rcases List.mem_cons.mp hmem with rfl | hmem
      · exact absurd hc (by decide)
      · exact hclosing.not_mem c (by simp at hc ⊢; omega) hmem
    have happend : universalNewlines (47 :: closing ++ 62 :: post)
        = universalNewlinesFrom false (47 :: closing) ++ 62 :: universalNewlines post :=
      universalNewlinesFrom_append (by decide) (by decide) false _ _
    rw [universalNewlinesFrom_plain (hplain 13 (by decide)) (hplain 10 (by decide))] at happend
    exact happend
  unfold block universalNewlines at *
  rw [universalNewlinesFrom_append (by decide) (by decide), universalNewlines,
    universalNewlinesFrom_append (by decide) (by decide), universalNewlines,
    universalNewlinesFrom_append (by decide) (by decide), universalNewlines, hclose,
    universalNewlinesFrom_plain (hopening.not_mem 13 (by decide))
      (hopening.not_mem 10 (by decide))]

end Twin

/-- **Profiles that differ in the body of one closed block are shown alike**, whatever is around
the block. -/
theorem view_hides_block (console : VpnConsole) (text : ViewText) (name : String)
    (read read' : String → Except String PyStr)
    (before opening closing post body body' : PyStr) (tag : String) (htag : tag ∈ secretTags)
    (hopening : CaseOf opening tag) (hclosing : CaseOf closing tag)
    (hbody : 60 ∉ body) (hbody' : 60 ∉ body')
    (hread : read name = .ok (before ++ block opening body closing post))
    (hread' : read' name = .ok (before ++ block opening body' closing post)) :
    (console.viewProfile text read name).content
      = (console.viewProfile text read' name).content := by
  have hshort : ∀ b : PyStr, 60 ∉ b → 60 ∉ universalNewlines b := fun b h =>
    not_mem_universalNewlinesFrom (by decide) h false
  have hmask : maskSecrets (universalNewlines (before ++ block opening body closing post))
      = maskSecrets (universalNewlines (before ++ block opening body' closing post)) := by
    have htwin := pieces_twin htag hopening hclosing (hshort body hbody) (hshort body' hbody')
      (universalNewlines post) _ (universalNewlines before) (Nat.le_refl _) true
    unfold maskSecrets sub
    rw [universalNewlines_block (hopening.isTag htag) (hclosing.isTag htag),
      universalNewlines_block (hopening.isTag htag) (hclosing.isTag htag), htwin]
  unfold VpnConsole.viewProfile
  rw [hread, hread']
  split
  next => rfl
  next =>
    split
    next => rfl
    next => exact congrArg some hmask

/-- The same key file, but for the key, behind a block that has been left open. -/
theorem view_hides_block_plant :
    (plantConsole.viewProfile ⟨id, fun _ => false⟩
        (fun _ => .ok (lit "client\n<tls-auth>\n" ++ block (lit "KEY") (lit "mine") (lit "Key") []))
        "plant").content
      = (plantConsole.viewProfile ⟨id, fun _ => false⟩
        (fun _ => .ok (lit "client\n<tls-auth>\n" ++ block (lit "KEY") (lit "yours") (lit "Key") []))
        "plant").content :=
  view_hides_block plantConsole _ "plant" _ _ _ _ _ _ _ _ "key" (by decide) (by decide)
    (by decide) (by decide) (by decide) rfl rfl

end EdgeSensor.Vpn
