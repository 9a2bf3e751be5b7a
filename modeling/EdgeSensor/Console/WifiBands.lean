import EdgeSensor.Console.WifiPriority
import EdgeSensor.Lib.Run

/-!
# The bands of the priorities

The pinned networks are tried in the operator's order and before all others, none of them is ever
deleted, and a promotion leaves the others in the order of its result (`bands_kept`). For this each
profile has to be read under its own name. `splitlines` reads of a name with a line break in it only
the last line (`savedWifiConnections_show`), and then the network that has just been connected to
may be deleted (`connected_pruned`).
-/

namespace EdgeSensor.Console

open EdgeSensor.Lib EdgeSensor.Py

/-- The profiles of the host: their UUIDs and the names of the Wi-Fi profiles are distinct, and
what NetworkManager makes up itself is on one line. -/
structure Nm.Proper (nm : Nm) : Prop where
  uuids : (nm.profiles.map (·.uuid)).Nodup
  names : ((nm.profiles.filter (·.isWifi)).map (·.name)).Nodup
  fields : ∀ p ∈ nm.profiles, OneLine p.uuid ∧ OneLine p.type ∧ OneLine p.timestamp

/-- No name of a Wi-Fi profile has a line break in it. -/
def Nm.Readable (nm : Nm) : Prop := ∀ p ∈ nm.profiles, p.isWifi = true → OneLine p.name

section Rows

variable {toInt : PyStr → Option Int} {nm : Nm}

/-- The row of a profile that is read under this name. -/
def rowNamed (toInt : PyStr → Option Int) (name : PyStr) (p : Profile) : SavedRow :=
  ⟨name, p.uuid, (toInt p.timestamp).getD 0⟩

/-- **What is read of the saved profiles.** -/
theorem savedWifiConnections_show (h : nm.Proper) : savedWifiConnections toInt (some nm.showSaved)
    = (nm.profiles.filter (·.isWifi)).map fun p => rowNamed toInt (lastLine p.name) p := by
  have hread := @readTable_name_first _ (savedRow toInt) (fun _ => rfl)
    (nm.profiles.map fun p => (p.name, [p.uuid, p.type, p.timestamp])) (by
      intro r hr field hfield
      obtain ⟨p, hp, rfl⟩ := List.mem_map.mp hr
      obtain ⟨huuid, htype, htimestamp⟩ := h.fields p hp
      rcases List.mem_cons.mp hfield with rfl | hfield
      · exact huuid
      rcases List.mem_cons.mp hfield with rfl | hfield
      · exact htype
      · rw [List.mem_singleton.mp hfield]
        exact htimestamp)
  rw [List.map_map, List.filterMap_map] at hread
  refine hread.trans ?_
  induction nm.profiles with
  | nil => rfl
  | cons p profiles ih =>
    rw [filterMap_cons_append, ih]
    by_cases hwifi : p.isWifi = true
    · have hrow : savedRow toInt [lastLine p.name, p.uuid, p.type, p.timestamp]
          = some (rowNamed toInt (lastLine p.name) p) := if_pos (of_decide_eq_true hwifi)
      rw [List.filter_cons_of_pos hwifi]
      show (savedRow toInt [lastLine p.name, p.uuid, p.type, p.timestamp]).toList ++ _ = _
      rw [hrow]
      rfl
    · have hrow : savedRow toInt [lastLine p.name, p.uuid, p.type, p.timestamp] = none :=
        if_neg fun htype => hwifi (decide_eq_true htype)
      rw [List.filter_cons_of_neg hwifi]
      show (savedRow toInt [lastLine p.name, p.uuid, p.type, p.timestamp]).toList ++ _ = _
      rw [hrow]
      rfl

/-- The Wi-Fi profiles as they are read under their names. -/
def wifiRows (toInt : PyStr → Option Int) (nm : Nm) : List SavedRow :=
  (nm.profiles.filter (·.isWifi)).map fun p => rowNamed toInt p.name p

theorem savedWifiConnections_readable (h : nm.Proper) (hreadable : nm.Readable) :
    savedWifiConnections toInt (some nm.showSaved) = wifiRows toInt nm := by
  rw [savedWifiConnections_show h]
  refine List.map_congr_left fun p hp => ?_
  obtain ⟨hmem, hwifi⟩ := List.mem_filter.mp hp
  rw [lastLine_of_oneLine (hreadable p hmem hwifi)]

theorem mem_wifiRows {c : SavedRow} : c ∈ wifiRows toInt nm ↔
    ∃ p ∈ nm.profiles, p.isWifi = true ∧ rowNamed toInt p.name p = c := by
  unfold wifiRows
  simp only [List.mem_map, List.mem_filter, and_assoc]

theorem isWifi_of_type {p p' : Profile} (h : p'.type = p.type) : p'.isWifi = p.isWifi := by
  unfold Profile.isWifi
  rw [h]

/-- A profile is known by its UUID. -/
theorem Nm.Proper.eq_of_uuid (h : nm.Proper) {p q : Profile} (hp : p ∈ nm.profiles)
    (hq : q ∈ nm.profiles) (heq : p.uuid = q.uuid) : p = q :=
  List.inj_on_of_nodup_map h.uuids hp hq heq

/-- A Wi-Fi profile is known by its name. -/
theorem Nm.Proper.eq_of_name (h : nm.Proper) {p q : Profile} (hp : p ∈ nm.profiles)
    (hq : q ∈ nm.profiles) (hpw : p.isWifi = true) (hqw : q.isWifi = true) (heq : p.name = q.name) :
    p = q :=
  List.inj_on_of_nodup_map h.names (List.mem_filter.mpr ⟨hp, hpw⟩) (List.mem_filter.mpr ⟨hq, hqw⟩) heq

theorem wifiRows_names : (wifiRows toInt nm).map (·.name) = (nm.profiles.filter (·.isWifi)).map (·.name) := by
  unfold wifiRows
  rw [List.map_map]
  rfl

theorem wifiRows_uuids : (wifiRows toInt nm).map (·.uuid) = (nm.profiles.filter (·.isWifi)).map (·.uuid) := by
  unfold wifiRows
  rw [List.map_map]
  rfl

theorem nodup_wifiRows_uuids (h : nm.Proper) : ((wifiRows toInt nm).map (·.uuid)).Nodup := by
  rw [wifiRows_uuids]
  exact (List.filter_sublist.map _).nodup h.uuids

/-- The row that is found under a name is that of the profile with this name. -/
theorem savedNamed_eq_some (h : nm.Proper) {p : Profile} (hp : p ∈ nm.profiles) (hwifi : p.isWifi = true) :
    savedNamed (wifiRows toInt nm) p.name = some (rowNamed toInt p.name p) := by
  have hmem : rowNamed toInt p.name p ∈ wifiRows toInt nm := mem_wifiRows.mpr ⟨p, hp, hwifi, rfl⟩
  unfold savedNamed
  cases hfind : (wifiRows toInt nm).reverse.find? fun c => c.name = p.name with
  | none =>
    have hnone := List.find?_eq_none.mp hfind _ (List.mem_reverse.mpr hmem)
    exact absurd (decide_eq_true rfl) hnone
  | some c =>
    have hname := List.find?_some hfind
    rw [decide_eq_true_eq] at hname
    obtain ⟨q, hq, hqw, rfl⟩ := mem_wifiRows.mp (List.mem_reverse.mp (List.mem_of_find?_eq_some hfind))
    have heq : q = p := h.eq_of_name hq hp hqw hwifi hname
    rw [heq]

theorem savedNamed_some {ssid : PyStr} {c : SavedRow} (h : savedNamed (wifiRows toInt nm) ssid = some c) :
    ∃ p ∈ nm.profiles, p.isWifi = true ∧ p.name = ssid ∧ c = rowNamed toInt ssid p := by
  have hname := List.find?_some h
  rw [decide_eq_true_eq] at hname
  obtain ⟨p, hp, hwifi, rfl⟩ := mem_wifiRows.mp (List.mem_reverse.mp (List.mem_of_find?_eq_some h))
  have heq : p.name = ssid := hname
  exact ⟨p, hp, hwifi, heq, by rw [heq]⟩

end Rows

/-! ## The commands -/

section Commands

variable {nm : Nm} {rows : List SavedRow} {p : Profile} {base : Int}

/-- What the priorities from `base` on make of a profile. -/
def assigned (base : Int) : List SavedRow → Profile → Profile
  | [], p => p
  | c :: rows, p =>
    assigned (base - 1) rows (if p.uuid = c.uuid then { p with autoconnect := true, priority := base } else p)

theorem setPriorities_done (base : Int) (nm : Nm) (rows : List SavedRow) :
    setPriorities (fun _ => .done) base nm rows
      = { nm with profiles := nm.profiles.map (assigned base rows) } := by
  induction rows generalizing base nm with
  | nil =>
    show nm = { nm with profiles := nm.profiles.map fun p => p }
    rw [List.map_id']
  | cons c rows ih =>
    show setPriorities _ (base - 1) (nm.modify c.uuid fun p => { p with autoconnect := true, priority := base }) rows = _
    rw [ih]
    unfold Nm.modify
    rw [List.map_map]
    rfl

/-- Only the priority changes. -/
theorem assigned_same (base : Int) (rows : List SavedRow) (p : Profile) :
    (assigned base rows p).uuid = p.uuid ∧ (assigned base rows p).name = p.name
      ∧ (assigned base rows p).type = p.type ∧ (assigned base rows p).timestamp = p.timestamp := by
  induction rows generalizing base p with
  | nil => exact ⟨rfl, rfl, rfl, rfl⟩
  | cons c rows ih =>
    unfold assigned
    obtain ⟨huuid, hname, htype, htimestamp⟩ := ih (base - 1)
      (if p.uuid = c.uuid then { p with autoconnect := true, priority := base } else p)
    rw [huuid, hname, htype, htimestamp]
    split
    next => exact ⟨rfl, rfl, rfl, rfl⟩
    next => exact ⟨rfl, rfl, rfl, rfl⟩

theorem assigned_of_not_mem (h : p.uuid ∉ rows.map (·.uuid)) : assigned base rows p = p := by
  induction rows generalizing base with
  | nil => rfl
  | cons c rows ih =>
    rw [List.map_cons, List.mem_cons, not_or] at h
    unfold assigned
    rw [if_neg h.1]
    exact ih h.2

/-- The profile of a row has the priority of its place. -/
theorem assigned_priority (hnodup : (rows.map (·.uuid)).Nodup) {i : Nat} {c : SavedRow}
    (hc : rows[i]? = some c) (huuid : p.uuid = c.uuid) : (assigned base rows p).priority = base - i := by
  induction rows generalizing base i with
  | nil => cases hc
  | cons d rows ih =>
    rw [List.map_cons, List.nodup_cons] at hnodup
    unfold assigned
    cases i with
    | zero =>
      cases hc
      rw [if_pos huuid, assigned_of_not_mem (by rw [← huuid] at hnodup; exact hnodup.1)]
      exact (Int.sub_zero base).symm
    | succ i =>
      have hne : p.uuid ≠ d.uuid := by
        intro heq
        refine hnodup.1 (List.mem_map.mpr ⟨c, List.mem_of_getElem? hc, ?_⟩)
        exact huuid.symm.trans heq
      rw [if_neg hne, ih hnodup.2 hc]
      push_cast
      omega

/-- What unpinning makes of a profile. -/
def cleared (rows : List SavedRow) (p : Profile) : Profile :=
  if p.uuid ∈ rows.map (·.uuid) then { p with priority := 0 } else p

theorem unpin_done (nm : Nm) (rows : List SavedRow) :
    unpin (fun _ => .done) nm rows = { nm with profiles := nm.profiles.map (cleared rows) } := by
  induction rows generalizing nm with
  | nil =>
    show nm = { nm with profiles := nm.profiles.map (cleared []) }
    have hid : cleared [] = fun p => p := funext fun p => if_neg List.not_mem_nil
    rw [hid, List.map_id']
  | cons c rows ih =>
    show unpin _ (nm.modify c.uuid fun p => { p with priority := 0 }) rows = _
    rw [ih]
    unfold Nm.modify
    rw [List.map_map]
    congr 1
    refine List.map_congr_left fun p _ => ?_
    unfold cleared
    simp only [Function.comp_apply, List.map_cons, List.mem_cons]
    by_cases hfirst : p.uuid = c.uuid
    · simp [hfirst]
    · simp [hfirst]

theorem deleteRows_done (nm : Nm) (rows : List SavedRow) :
    (deleteRows (fun _ => .done) nm rows).1.profiles
        = nm.profiles.filter (fun p => p.uuid ∉ rows.map (·.uuid))
      ∧ (deleteRows (fun _ => .done) nm rows).2 = rows.map (·.name) := by
  induction rows generalizing nm with
  | nil => exact ⟨(List.filter_eq_self.mpr fun p _ => decide_eq_true List.not_mem_nil).symm, rfl⟩
  | cons c rows ih =>
    obtain ⟨hprofiles, hnames⟩ := ih (nm.delete c.uuid)
    constructor
    · show (deleteRows _ (nm.delete c.uuid) rows).1.profiles = _
      rw [hprofiles]
      unfold Nm.delete
      rw [List.filter_filter]
      refine List.filter_congr fun p _ => ?_
      simp only [List.map_cons, List.mem_cons, not_or, Bool.decide_and, Bool.and_comm, ne_eq]
    · show (if Reply.done = Reply.done then c.name :: (deleteRows (fun _ => .done) (nm.delete c.uuid) rows).2
        else (deleteRows (fun _ => .done) (nm.delete c.uuid) rows).2) = _
      rw [if_pos rfl, hnames]
      rfl

end Commands

/-! ## One call -/

/-- The profiles and the file of the pinned names. -/
structure WifiWorld where
  nm : Nm
  file : Option Value := none

/-- The pinned names. -/
def WifiWorld.pinned (w : WifiWorld) : List PyStr := loadPinned w.file

/-- The Wi-Fi profiles that are not pinned. -/
def WifiWorld.unpinned (w : WifiWorld) : List Profile :=
  w.nm.profiles.filter fun p => p.isWifi && p.name ∉ w.pinned

/-- The priorities are in their bands: the pinned names are those of profiles, each with the
priority of its place, and the others are below. -/
structure Banded (w : WifiWorld) : Prop where
  proper : w.nm.Proper
  nodup : w.pinned.Nodup
  short : w.pinned.length ≤ wifiPinnedMax
  saved : ∀ s ∈ w.pinned, ∃ p ∈ w.nm.profiles, p.isWifi = true ∧ p.name = s
  pinnedBand : ∀ p ∈ w.nm.profiles, p.isWifi = true → ∀ i : Nat, w.pinned[i]? = some p.name →
    p.priority = wifiPinnedBase - i
  otherBand : ∀ p ∈ w.nm.profiles, p.isWifi = true → p.name ∉ w.pinned →
    0 ≤ p.priority ∧ p.priority ≤ wifiPriorityBase

/-- The order of the priorities: the pinned profiles in the order of the list, above the others. -/
structure InOrder (w : WifiWorld) : Prop where
  decreasing : ∀ p ∈ w.nm.profiles, ∀ q ∈ w.nm.profiles, p.isWifi = true → q.isWifi = true →
    ∀ i j : Nat, i < j → w.pinned[i]? = some p.name → w.pinned[j]? = some q.name →
      q.priority < p.priority
  above : ∀ p ∈ w.nm.profiles, ∀ q ∈ w.nm.profiles, p.isWifi = true → q.isWifi = true →
    p.name ∈ w.pinned → q.name ∉ w.pinned → q.priority < p.priority

theorem Banded.inOrder {w : WifiWorld} (h : Banded w) : InOrder w where
  decreasing p hp q hq hpw hqw i j hij hi hj := by
    rw [h.pinnedBand p hp hpw i hi, h.pinnedBand q hq hqw j hj]
    omega
  above p hp q hq hpw hqw hpin hother := by
    obtain ⟨i, hi⟩ := List.getElem?_of_mem hpin
    have hlt : i < w.pinned.length := (List.getElem?_eq_some_iff.mp hi).1
    have hshort := h.short
    have hbelow := (h.otherBand q hq hqw hother).2
    rw [h.pinnedBand p hp hpw i hi]
    unfold wifiPinnedMax at hshort
    unfold wifiPriorityBase at hbelow
    unfold wifiPinnedBase
    omega

/-- What a promotion leaves: of the unpinned profiles those of the result, `keep` at most, with
priorities that go down along it, and the active network first. -/
structure Promoted (w w' : WifiWorld) (activeSsid : PyStr) (keep : Int) (kept : List PyStr) : Prop where
  length : (w'.unpinned.length : Int) ≤ keep
  ranked : ∀ p ∈ w'.unpinned, ∃ i : Nat, kept[i]? = some p.name ∧ p.priority = wifiPriorityBase - i
  active : ∀ p ∈ w.unpinned, p.name = activeSsid → ∃ p' ∈ w'.unpinned, p'.uuid = p.uuid
    ∧ p'.name = activeSsid ∧ ∀ q ∈ w'.unpinned, q ≠ p' → q.priority < p'.priority

section Calls

variable {toInt : PyStr → Option Int} {w : WifiWorld}

/-- `promote_and_prune_wifi`, with every command a success. -/
def WifiWorld.promote (toInt : PyStr → Option Int) (w : WifiWorld) (activeSsid : PyStr) (keep : Int) :
    WifiWorld × PruneResult :=
  let (nm, result) := promoteAndPruneWifi toInt {} w.nm w.file activeSsid keep
  ({ w with nm := nm }, result)

/-- `set_wifi_priority`, with every command and the write a success. -/
def WifiWorld.setOrder (toInt : PyStr → Option Int) (w : WifiWorld) (enabled : Bool) (order : Value) :
    WifiWorld × Except WifiError (List PinnedNetwork) :=
  let (nm, file, result) := setWifiPriority toInt enabled {} w.nm w.file order
  (⟨nm, file⟩, result)

theorem perm_unpinnedRows (pinned : List PyStr) (activeSsid : PyStr) (conns : List SavedRow) :
    (unpinnedRows pinned activeSsid conns).Perm (conns.filter fun c => c.name ∉ pinned) :=
  List.perm_insertionSort _ _

/-- Profiles that are changed in their priorities, and of which some are taken away. -/
theorem Nm.Proper.of_profiles {nm nm' : Nm} (h : nm.Proper) {f : Profile → Profile} {keep : Profile → Bool}
    (hsame : ∀ p, (f p).uuid = p.uuid ∧ (f p).name = p.name ∧ (f p).type = p.type
      ∧ (f p).timestamp = p.timestamp)
    (hprofiles : nm'.profiles = (nm.profiles.map f).filter keep) : nm'.Proper where
  uuids := by
    have hmap : (nm.profiles.map f).map (·.uuid) = nm.profiles.map (·.uuid) := by
      rw [List.map_map]
      exact List.map_congr_left fun p _ => (hsame p).1
    rw [hprofiles]
    refine (List.filter_sublist.map _).nodup ?_
    rw [hmap]
    exact h.uuids
  names := by
    have hmap : ((nm.profiles.map f).filter (·.isWifi)).map (·.name)
        = (nm.profiles.filter (·.isWifi)).map (·.name) := by
      rw [List.filter_map, List.map_map]
      have hwifi : (fun p => (f p).isWifi) = fun p : Profile => p.isWifi := by
        funext p
        unfold Profile.isWifi
        rw [(hsame p).2.2.1]
      rw [show ((fun p : Profile => p.isWifi) ∘ f) = fun p : Profile => p.isWifi from hwifi]
      exact List.map_congr_left fun p _ => (hsame p).2.1
    rw [hprofiles, List.filter_comm]
    refine (List.filter_sublist.map _).nodup ?_
    rw [hmap]
    exact h.names
  fields p' hp' := by
    rw [hprofiles] at hp'
    obtain ⟨p, hp, rfl⟩ := List.mem_map.mp (List.mem_of_mem_filter hp')
    obtain ⟨huuid, -, htype, htimestamp⟩ := hsame p
    rw [huuid, htype, htimestamp]
    exact h.fields p hp

/-! ### A promotion -/

section Promotion

variable {activeSsid : PyStr} {keep : Int}

/-- The rows of a promotion, in their order. -/
def WifiWorld.rows (toInt : PyStr → Option Int) (w : WifiWorld) (activeSsid : PyStr) : List SavedRow :=
  unpinnedRows w.pinned activeSsid (wifiRows toInt w.nm)

theorem promote_eq (hproper : w.nm.Proper) (hreadable : w.nm.Readable) (hkeep : 1 ≤ keep) :
    (w.promote toInt activeSsid keep).1.file = w.file
      ∧ (w.promote toInt activeSsid keep).1.nm.profiles
        = (w.nm.profiles.map (assigned wifiPriorityBase ((w.rows toInt activeSsid).take keep.toNat))).filter
          (fun p => p.uuid ∉ ((w.rows toInt activeSsid).drop keep.toNat).map (·.uuid))
      ∧ (w.promote toInt activeSsid keep).2.kept
        = ((w.rows toInt activeSsid).take keep.toNat).map (·.name) := by
  unfold WifiWorld.promote promoteAndPruneWifi
  rw [if_neg (by omega)]
  simp only [if_true, savedWifiConnections_readable hproper hreadable]
  split
  next hnone =>
    have hrows : w.rows toInt activeSsid = [] := by
      unfold WifiWorld.rows unpinnedRows
      rw [hnone]
      rfl
    rw [hrows, List.take_nil, List.drop_nil]
    refine ⟨trivial, ?_, rfl⟩
    show w.nm.profiles = (w.nm.profiles.map fun p => p).filter _
    rw [List.map_id']
    exact (List.filter_eq_self.mpr fun p _ => decide_eq_true List.not_mem_nil).symm
  next =>
    refine ⟨trivial, ?_, rfl⟩
    show (deleteRows (fun _ => .done) (setPriorities (fun _ => .done) wifiPriorityBase w.nm
      ((w.rows toInt activeSsid).take keep.toNat)) ((w.rows toInt activeSsid).drop keep.toNat)).1.profiles = _
    rw [(deleteRows_done _ _).1, setPriorities_done]

theorem mem_rows {c : SavedRow} : c ∈ w.rows toInt activeSsid ↔
    ∃ p ∈ w.unpinned, rowNamed toInt p.name p = c := by
  unfold WifiWorld.rows WifiWorld.unpinned
  rw [(perm_unpinnedRows _ _ _).mem_iff, List.mem_filter, mem_wifiRows]
  simp only [List.mem_filter, Bool.and_eq_true, decide_eq_true_eq]
  constructor
  · rintro ⟨⟨p, hp, hwifi, rfl⟩, hother⟩
    exact ⟨p, ⟨hp, hwifi, hother⟩, rfl⟩
  · rintro ⟨p, ⟨hp, hwifi, hother⟩, rfl⟩
    exact ⟨⟨p, hp, hwifi, rfl⟩, hother⟩

theorem nodup_rows_uuids (hproper : w.nm.Proper) : ((w.rows toInt activeSsid).map (·.uuid)).Nodup := by
  have hperm := (perm_unpinnedRows w.pinned activeSsid (wifiRows toInt w.nm)).map (·.uuid)
  refine hperm.nodup_iff.mpr ?_
  exact (List.filter_sublist.map _).nodup (nodup_wifiRows_uuids hproper)

theorem nodup_rows_names (hproper : w.nm.Proper) : ((w.rows toInt activeSsid).map (·.name)).Nodup := by
  have hperm := (perm_unpinnedRows w.pinned activeSsid (wifiRows toInt w.nm)).map (·.name)
  refine hperm.nodup_iff.mpr ((List.filter_sublist.map _).nodup ?_)
  rw [wifiRows_names]
  exact hproper.names

/-- A profile is in the rows only if it is unpinned. -/
theorem mem_unpinned_of_uuid (hproper : w.nm.Proper) {p : Profile} (hp : p ∈ w.nm.profiles) {c : SavedRow}
    (hc : c ∈ w.rows toInt activeSsid) (huuid : c.uuid = p.uuid) : p ∈ w.unpinned := by
  obtain ⟨q, hq, rfl⟩ := mem_rows.mp hc
  have heq : q = p := hproper.eq_of_uuid (List.mem_of_mem_filter hq) hp huuid
  exact heq ▸ hq

instance (activeSsid : PyStr) : Std.Total fun a b => recentFirst activeSsid a b = true where
  total a b := by
    unfold recentFirst
    by_cases ha : a.name = activeSsid <;> by_cases hb : b.name = activeSsid <;> simp [ha, hb] <;> omega

instance (activeSsid : PyStr) : IsTrans SavedRow fun a b => recentFirst activeSsid a b = true where
  trans a b c := by
    unfold recentFirst
    by_cases ha : a.name = activeSsid <;> by_cases hb : b.name = activeSsid <;>
      by_cases hc : c.name = activeSsid <;> simp [ha, hb, hc] <;> omega

/-- The active network is in front. -/
theorem rows_head {c : SavedRow} (hc : c ∈ w.rows toInt activeSsid) (hname : c.name = activeSsid) :
    ∃ d, (w.rows toInt activeSsid)[0]? = some d ∧ d.name = activeSsid := by
  have hsorted : (w.rows toInt activeSsid).Pairwise fun a b => recentFirst activeSsid a b = true :=
    List.pairwise_insertionSort _ _
  cases hrows : w.rows toInt activeSsid with
  | nil =>
    rw [hrows] at hc
    cases hc
  | cons d rows =>
    refine ⟨d, rfl, ?_⟩
    rw [hrows] at hc hsorted
    rcases List.mem_cons.mp hc with rfl | hmem
    · exact hname
    · have hfirst := (List.pairwise_cons.mp hsorted).1 c hmem
      by_contra hne
      unfold recentFirst at hfirst
      simp [hne, hname] at hfirst

/-- What a promotion does to a profile. -/
theorem promoted_cases (hproper : w.nm.Proper) (hreadable : w.nm.Readable) (hkeep : 1 ≤ keep)
    {p' : Profile} (hp' : p' ∈ (w.promote toInt activeSsid keep).1.nm.profiles) :
    ∃ p ∈ w.nm.profiles, p'.uuid = p.uuid ∧ p'.name = p.name ∧ p'.isWifi = p.isWifi
      ∧ (p ∉ w.unpinned ∧ p' = p
        ∨ p ∈ w.unpinned ∧ ∃ i : Nat, (i : Int) < keep
          ∧ (w.promote toInt activeSsid keep).2.kept[i]? = some p'.name
          ∧ p'.priority = wifiPriorityBase - i) := by
  obtain ⟨-, hprofiles, hkept⟩ := @promote_eq toInt _ activeSsid _ hproper hreadable hkeep
  rw [hprofiles] at hp'
  obtain ⟨hmap, hnot⟩ := List.mem_filter.mp hp'
  obtain ⟨p, hp, rfl⟩ := List.mem_map.mp hmap
  obtain ⟨huuid, hname, htype, -⟩ := assigned_same wifiPriorityBase
    ((w.rows toInt activeSsid).take keep.toNat) p
  refine ⟨p, hp, huuid, hname, isWifi_of_type htype, ?_⟩
  by_cases hother : p ∈ w.unpinned
  · refine .inr ⟨hother, ?_⟩
    have hrow : rowNamed toInt p.name p ∈ w.rows toInt activeSsid := mem_rows.mpr ⟨p, hother, rfl⟩
    -- it has not been deleted, so it is among those that are kept
    have hnotDropped : rowNamed toInt p.name p ∉ (w.rows toInt activeSsid).drop keep.toNat := by
      intro hmem
      rw [huuid] at hnot
      exact of_decide_eq_true hnot (List.mem_map.mpr ⟨_, hmem, rfl⟩)
    have hmem : rowNamed toInt p.name p ∈ (w.rows toInt activeSsid).take keep.toNat := by
      rw [← List.take_append_drop keep.toNat (w.rows toInt activeSsid)] at hrow
      exact (List.mem_append.mp hrow).resolve_right hnotDropped
    obtain ⟨i, hi⟩ := List.getElem?_of_mem hmem
    have hlt : i < keep.toNat := by
      have hlength := (List.getElem?_eq_some_iff.mp hi).1
      rw [List.length_take] at hlength
      omega
    refine ⟨i, by omega, ?_, ?_⟩
    · rw [hkept, List.getElem?_map, hi, hname]
      rfl
    · refine assigned_priority ?_ hi rfl
      exact ((List.take_sublist _ _).map _).nodup (nodup_rows_uuids hproper)
  · refine .inl ⟨hother, assigned_of_not_mem fun hmem => hother ?_⟩
    obtain ⟨c, hc, hcu⟩ := List.mem_map.mp hmem
    exact mem_unpinned_of_uuid hproper hp (List.mem_of_mem_take hc) hcu

/-- A profile that is not a row past the first `keep` stays. -/
theorem promoted_stays (hproper : w.nm.Proper) (hreadable : w.nm.Readable) (hkeep : 1 ≤ keep)
    {p : Profile} (hp : p ∈ w.nm.profiles)
    (hstays : ∀ c ∈ (w.rows toInt activeSsid).drop keep.toNat, c.uuid ≠ p.uuid) :
    ∃ p' ∈ (w.promote toInt activeSsid keep).1.nm.profiles,
      p'.uuid = p.uuid ∧ p'.name = p.name ∧ p'.isWifi = p.isWifi := by
  obtain ⟨-, hprofiles, -⟩ := @promote_eq toInt _ activeSsid _ hproper hreadable hkeep
  obtain ⟨huuid, hname, htype, -⟩ := assigned_same wifiPriorityBase
    ((w.rows toInt activeSsid).take keep.toNat) p
  refine ⟨_, ?_, huuid, hname, isWifi_of_type htype⟩
  rw [hprofiles]
  refine List.mem_filter.mpr ⟨List.mem_map_of_mem hp, decide_eq_true fun hmem => ?_⟩
  obtain ⟨c, hc, hcu⟩ := List.mem_map.mp hmem
  exact hstays c hc (hcu.trans huuid)

theorem not_mem_unpinned {p : Profile} (hpinned : p.name ∈ w.pinned) : p ∉ w.unpinned := by
  intro hmem
  have hother := (List.mem_filter.mp hmem).2
  rw [Bool.and_eq_true, decide_eq_true_eq] at hother
  exact hother.2 hpinned

theorem mem_unpinned {p : Profile} : p ∈ w.unpinned ↔
    p ∈ w.nm.profiles ∧ p.isWifi = true ∧ p.name ∉ w.pinned := by
  unfold WifiWorld.unpinned
  rw [List.mem_filter, Bool.and_eq_true, decide_eq_true_eq]

/-- A pinned profile survives a promotion. -/
theorem pinned_promoted (hproper : w.nm.Proper) (hreadable : w.nm.Readable) (hkeep : 1 ≤ keep)
    {p : Profile} (hp : p ∈ w.nm.profiles) (hpinned : p.name ∈ w.pinned) :
    ∃ p' ∈ (w.promote toInt activeSsid keep).1.nm.profiles,
      p'.uuid = p.uuid ∧ p'.name = p.name ∧ p'.isWifi = p.isWifi := by
  refine promoted_stays hproper hreadable hkeep hp fun c hc heq => not_mem_unpinned hpinned ?_
  exact mem_unpinned_of_uuid hproper hp (List.mem_of_mem_drop hc) heq

theorem pinned_promote (hproper : w.nm.Proper) (hreadable : w.nm.Readable) (hkeep : 1 ≤ keep) :
    (w.promote toInt activeSsid keep).1.pinned = w.pinned :=
  congrArg loadPinned (promote_eq hproper hreadable hkeep).1

/-- **A promotion keeps the bands.** -/
theorem Banded.promote (h : Banded w) (hreadable : w.nm.Readable) (hkeep : 1 ≤ keep)
    (hmax : keep ≤ wifiPriorityBase) : Banded (w.promote toInt activeSsid keep).1 := by
  have hpinned := @pinned_promote toInt _ activeSsid _ h.proper hreadable hkeep
  refine ⟨?_, by rw [hpinned]; exact h.nodup, by rw [hpinned]; exact h.short, fun s hs => ?_,
    fun p' hp' hwifi i hi => ?_, fun p' hp' hwifi hother => ?_⟩
  · exact h.proper.of_profiles (assigned_same _ _) (promote_eq h.proper hreadable hkeep).2.1
  · rw [hpinned] at hs
    obtain ⟨p, hp, hwifi, rfl⟩ := h.saved s hs
    obtain ⟨p', hp', -, hname, hsame⟩ := @pinned_promoted toInt _ activeSsid _
      h.proper hreadable hkeep _ hp hs
    exact ⟨p', hp', hsame.trans hwifi, hname⟩
  · obtain ⟨p, hp, -, hname, hsame, hcases⟩ := promoted_cases h.proper hreadable hkeep hp'
    rw [hpinned, hname] at hi
    rcases hcases with ⟨-, rfl⟩ | ⟨hmem, -⟩
    · exact h.pinnedBand p' hp (hsame ▸ hwifi) i hi
    · exact absurd hmem (not_mem_unpinned (List.mem_of_getElem? hi))
  · obtain ⟨p, hp, -, hname, hsame, hcases⟩ := promoted_cases h.proper hreadable hkeep hp'
    rw [hpinned, hname] at hother
    rcases hcases with ⟨-, rfl⟩ | ⟨-, i, hi, -, hpriority⟩
    · exact h.otherBand p' hp (hsame ▸ hwifi) hother
    · rw [hpriority]
      constructor
      · omega
      · omega

/-- The unpinned profiles after a promotion are among those of its result. -/
theorem unpinned_promote (hproper : w.nm.Proper) (hreadable : w.nm.Readable) (hkeep : 1 ≤ keep)
    {p' : Profile} (hp' : p' ∈ (w.promote toInt activeSsid keep).1.unpinned) :
    ∃ i : Nat, (i : Int) < keep ∧ (w.promote toInt activeSsid keep).2.kept[i]? = some p'.name
      ∧ p'.priority = wifiPriorityBase - i := by
  obtain ⟨hmem, hwifi, hother⟩ := mem_unpinned.mp hp'
  obtain ⟨p, hp, -, hname, hsame, hcases⟩ := promoted_cases hproper hreadable hkeep hmem
  rcases hcases with ⟨hnot, -⟩ | ⟨-, hranked⟩
  · refine absurd (mem_unpinned.mpr ⟨hp, hsame ▸ hwifi, ?_⟩) hnot
    rw [pinned_promote hproper hreadable hkeep, hname] at hother
    exact hother
  · exact hranked

/-- **What a promotion leaves.** -/
theorem promoted (h : Banded w) (hreadable : w.nm.Readable) (hkeep : 1 ≤ keep)
    (hmax : keep ≤ wifiPriorityBase) : Promoted w (w.promote toInt activeSsid keep).1 activeSsid keep
      (w.promote toInt activeSsid keep).2.kept := by
  have hbanded := @Banded.promote toInt _ activeSsid _ h hreadable hkeep hmax
  have hpinned := @pinned_promote toInt _ activeSsid _ h.proper hreadable hkeep
  have hkept := (@promote_eq toInt _ activeSsid _ h.proper hreadable hkeep).2.2
  refine ⟨?_, fun p hp => ?_, fun p hp hactive => ?_⟩
  · -- their names are distinct and among those of the result
    have hnames : ((w.promote toInt activeSsid keep).1.unpinned.map (·.name)).Nodup := by
      have hsub : ((w.promote toInt activeSsid keep).1.unpinned.map (·.name)).Sublist
          (((w.promote toInt activeSsid keep).1.nm.profiles.filter (·.isWifi)).map (·.name)) := by
        exact (List.monotone_filter_right _ fun p hp => (Bool.and_eq_true _ _ ▸ hp).1).map _
      exact hsub.nodup hbanded.proper.names
    have hsubset : (w.promote toInt activeSsid keep).1.unpinned.map (·.name)
        ⊆ (w.promote toInt activeSsid keep).2.kept := by
      intro name hname
      obtain ⟨p, hp, rfl⟩ := List.mem_map.mp hname
      obtain ⟨i, -, hi, -⟩ := unpinned_promote h.proper hreadable hkeep hp
      exact List.mem_of_getElem? hi
    have hlength := (List.subperm_of_subset hnames hsubset).length_le
    rw [List.length_map, hkept, List.length_map, List.length_take] at hlength
    omega
  · obtain ⟨i, -, hi, hpriority⟩ := unpinned_promote h.proper hreadable hkeep hp
    exact ⟨i, hi, hpriority⟩
  · have hrow : rowNamed toInt p.name p ∈ w.rows toInt activeSsid := mem_rows.mpr ⟨p, hp, rfl⟩
    obtain ⟨hmem, hwifi, hother⟩ := mem_unpinned.mp hp
    obtain ⟨d, hd, hdname⟩ := rows_head hrow hactive
    -- the row in front is that of the profile
    have hfirst : d = rowNamed toInt p.name p := by
      obtain ⟨q, hq, rfl⟩ := mem_rows.mp (List.mem_of_getElem? hd)
      obtain ⟨hqmem, hqwifi, -⟩ := mem_unpinned.mp hq
      rw [h.proper.eq_of_name hqmem hmem hqwifi hwifi (hdname.trans hactive.symm)]
    have hstays : ∀ c ∈ (w.rows toInt activeSsid).drop keep.toNat, c.uuid ≠ p.uuid := by
      intro c hc heq
      obtain ⟨i, hi⟩ := List.getElem?_of_mem hc
      rw [List.getElem?_drop] at hi
      have hlast : ((w.rows toInt activeSsid).map (·.uuid))[keep.toNat + i]? = some p.uuid := by
        rw [List.getElem?_map, hi]
        exact congrArg some heq
      have hzero : ((w.rows toInt activeSsid).map (·.uuid))[0]? = some p.uuid := by
        rw [List.getElem?_map, hd, hfirst]
        rfl
      have hlength := (List.getElem?_eq_some_iff.mp hzero).1
      have hsame := (List.getElem?_inj hlength (nodup_rows_uuids h.proper)).mp (hzero.trans hlast.symm)
      omega
    obtain ⟨p', hp', huuid, hname, hsame⟩ := @promoted_stays toInt _ _ _ h.proper hreadable hkeep _ hmem hstays
    have hp'other : p' ∈ (w.promote toInt activeSsid keep).1.unpinned := by
      refine mem_unpinned.mpr ⟨hp', hsame.trans hwifi, ?_⟩
      rw [hpinned, hname]
      exact hother
    have hzero : (w.promote toInt activeSsid keep).2.kept[0]? = some activeSsid := by
      rw [hkept, List.getElem?_map, List.getElem?_take_of_lt (by omega), hd, ← hdname]
      rfl
    obtain ⟨i, -, hi, hpriority⟩ := unpinned_promote h.proper hreadable hkeep hp'other
    have hfront : 0 = i := by
      refine (List.getElem?_inj (List.getElem?_eq_some_iff.mp hzero).1 ?_).mp ?_
      · rw [hkept]
        exact ((List.take_sublist _ _).map _).nodup (nodup_rows_names h.proper)
      · rw [hzero, hi, hname, hactive]
    refine ⟨p', hp'other, huuid, hname.trans hactive, fun q hq hne => ?_⟩
    obtain ⟨j, -, hj, hqpriority⟩ := unpinned_promote h.proper hreadable hkeep hq
    have hbehind : j ≠ 0 := by
      rintro rfl
      obtain ⟨hqmem, hqwifi, -⟩ := mem_unpinned.mp hq
      refine hne (hbanded.proper.eq_of_name hqmem hp' hqwifi (hsame.trans hwifi) ?_)
      rw [hname, hactive]
      exact Option.some.inj (hj.symm.trans hzero)
    rw [hqpriority, hpriority, ← hfront]
    omega

end Promotion

/-! ### A new order -/

section Order

/-- The texts that are taken are distinct, and none is empty. -/
theorem cleanedOrder_spec (order : List Value) :
    (cleanedOrder order).Nodup ∧ ∀ s ∈ cleanedOrder order, s ≠ [] := by
  unfold cleanedOrder
  induction order using List.reverseRecOn with
  | nil => exact ⟨List.nodup_nil, fun s hs => absurd hs List.not_mem_nil⟩
  | append_singleton order x ih =>
    rw [List.foldl_append, List.foldl_cons, List.foldl_nil]
    generalize order.foldl _ [] = cleaned at ih
    cases x with
    | str s =>
      simp only
      split
      next => exact ih
      next hkept =>
        simp only [Bool.or_eq_true, decide_eq_true_eq, not_or] at hkept
        obtain ⟨⟨⟨hne, -⟩, -⟩, hnew⟩ := hkept
        refine ⟨List.nodup_append.mpr ⟨ih.1, List.pairwise_singleton _ _, fun a ha b hb hab => ?_⟩,
          fun t ht => ?_⟩
        · rw [List.mem_singleton.mp hb] at hab
          exact hnew (hab ▸ ha)
        · rcases List.mem_append.mp ht with hold | hone
          · exact ih.2 t hold
          · rw [List.mem_singleton.mp hone]
            exact hne
    | null | bool _ | int _ | float _ | arr _ | obj _ => exact ih

/-- What is written is what is loaded. -/
theorem loadPinned_pinnedFile {order : List PyStr} (h : ∀ s ∈ order, s ≠ []) :
    loadPinned (some (pinnedFile order)) = order := by
  show (order.map Value.str).filterMap _ = order
  rw [List.filterMap_map]
  conv => rhs; rw [← List.filterMap_some (l := order)]
  refine List.filterMap_congr fun s hs => ?_
  exact if_neg (h s hs)

/-- The call reads the saved profiles. -/
def ReadsSaved (enabled : Bool) (order : Value) : Prop :=
  enabled = true ∧ ∃ xs, order = .arr xs ∧ (cleanedOrder xs).length ≤ wifiPinnedMax

/-- The new list of a call. -/
def newOrder (toInt : PyStr → Option Int) (nm : Nm) (order : List Value) : List PyStr :=
  (cleanedOrder order).filter fun s => (savedNamed (wifiRows toInt nm) s).isSome

/-- A call that reads nothing changes nothing. -/
theorem setOrder_of_not_reads {enabled : Bool} {order : Value} (h : ¬ ReadsSaved enabled order) :
    (w.setOrder toInt enabled order).1 = w := by
  unfold WifiWorld.setOrder setWifiPriority
  cases enabled with
  | false => rfl
  | true =>
    cases order with
    | arr xs =>
      have hmany : wifiPinnedMax < (cleanedOrder xs).length :=
        Nat.lt_of_not_le fun hle => h ⟨rfl, xs, rfl, hle⟩
      simp only [hmany, if_true]
      rfl
    | null | bool _ | int _ | float _ | str _ | obj _ => rfl

/-- What a call makes of a profile: the unpinned go back to 0, the pinned get their places. -/
def reordered (toInt : PyStr → Option Int) (w : WifiWorld) (order : List Value) (p : Profile) : Profile :=
  cleared ((w.pinned.filter fun s => s ∉ newOrder toInt w.nm order).filterMap (savedNamed (wifiRows toInt w.nm)))
    (assigned wifiPinnedBase ((newOrder toInt w.nm order).filterMap (savedNamed (wifiRows toInt w.nm))) p)

theorem reordered_same (order : List Value) (p : Profile) :
    (reordered toInt w order p).uuid = p.uuid ∧ (reordered toInt w order p).name = p.name
      ∧ (reordered toInt w order p).type = p.type
      ∧ (reordered toInt w order p).timestamp = p.timestamp := by
  unfold reordered cleared
  split
  next => exact assigned_same _ _ _
  next => exact assigned_same _ _ _

/-- What a call makes of the profiles and the file. -/
theorem setOrder_eq (hproper : w.nm.Proper) (hreadable : w.nm.Readable) {xs : List Value}
    (hshort : (cleanedOrder xs).length ≤ wifiPinnedMax) :
    (w.setOrder toInt true (.arr xs)).1.file = some (pinnedFile (newOrder toInt w.nm xs))
      ∧ (w.setOrder toInt true (.arr xs)).1.nm.profiles = w.nm.profiles.map (reordered toInt w xs) := by
  unfold WifiWorld.setOrder setWifiPriority
  have hnot : ¬ wifiPinnedMax < (cleanedOrder xs).length := Nat.not_lt.mpr hshort
  simp only [Bool.not_true, Bool.false_eq_true, if_false, if_true, hnot,
    savedWifiConnections_readable hproper hreadable, setPriorities_done, unpin_done, List.map_map]
  exact ⟨rfl, rfl⟩

theorem filterMap_getElem? {α β : Type} {f : α → Option β} {l : List α}
    (h : ∀ a ∈ l, (f a).isSome = true) (i : Nat) : (l.filterMap f)[i]? = l[i]?.bind f := by
  induction l generalizing i with
  | nil => rfl
  | cons a l ih =>
    obtain ⟨b, hb⟩ := Option.isSome_iff_exists.mp (h a List.mem_cons_self)
    rw [List.filterMap_cons_some hb]
    cases i with
    | zero => exact hb.symm
    | succ i => exact ih (fun a ha => h a (List.mem_cons_of_mem _ ha)) i

/-- A profile has a row among those of some names exactly if its name is one of them. -/
theorem mem_namedRows (hproper : w.nm.Proper) {p : Profile} (hp : p ∈ w.nm.profiles)
    (hwifi : p.isWifi = true) (names : List PyStr) :
    p.uuid ∈ (names.filterMap (savedNamed (wifiRows toInt w.nm))).map (·.uuid) ↔ p.name ∈ names := by
  constructor
  · intro hmem
    obtain ⟨c, hc, hcu⟩ := List.mem_map.mp hmem
    obtain ⟨s, hs, hsaved⟩ := List.mem_filterMap.mp hc
    obtain ⟨q, hq, -, rfl, rfl⟩ := savedNamed_some hsaved
    rw [← hproper.eq_of_uuid hq hp hcu]
    exact hs
  · intro hname
    refine List.mem_map.mpr ⟨rowNamed toInt p.name p, ?_, rfl⟩
    exact List.mem_filterMap.mpr ⟨p.name, hname, savedNamed_eq_some hproper hp hwifi⟩

theorem nodup_namedRows (hproper : w.nm.Proper) {names : List PyStr} (hnodup : names.Nodup) :
    ((names.filterMap (savedNamed (wifiRows toInt w.nm))).map (·.uuid)).Nodup := by
  induction names with
  | nil => exact List.nodup_nil
  | cons s names ih =>
    rw [List.nodup_cons] at hnodup
    rw [filterMap_cons_append]
    cases hsaved : savedNamed (wifiRows toInt w.nm) s with
    | none => exact ih hnodup.2
    | some c =>
      obtain ⟨p, hp, hwifi, rfl, rfl⟩ := savedNamed_some hsaved
      refine List.nodup_cons.mpr ⟨fun hmem => hnodup.1 ?_, ih hnodup.2⟩
      exact (mem_namedRows hproper hp hwifi names).mp hmem

theorem newOrder_saved {order : List Value} :
    ∀ s ∈ newOrder toInt w.nm order, (savedNamed (wifiRows toInt w.nm) s).isSome = true :=
  fun _ hs => (List.mem_filter.mp hs).2

theorem nodup_newOrder (order : List Value) : (newOrder toInt w.nm order).Nodup :=
  (cleanedOrder_spec order).1.filter _

/-- A pinned profile gets the priority of its place. -/
theorem reordered_pinned (hproper : w.nm.Proper) {order : List Value} {p : Profile} (hp : p ∈ w.nm.profiles)
    (hwifi : p.isWifi = true) {i : Nat} (hi : (newOrder toInt w.nm order)[i]? = some p.name) :
    (reordered toInt w order p).priority = wifiPinnedBase - i := by
  have hnot : ¬ p.name ∈ w.pinned.filter fun s => s ∉ newOrder toInt w.nm order := fun hmem =>
    of_decide_eq_true (List.mem_filter.mp hmem).2 (List.mem_of_getElem? hi)
  unfold reordered cleared
  rw [(assigned_same _ _ _).1, if_neg fun hmem => hnot ((mem_namedRows hproper hp hwifi _).mp hmem)]
  refine assigned_priority (c := rowNamed toInt p.name p) (nodup_namedRows hproper (nodup_newOrder order)) ?_ rfl
  rw [filterMap_getElem? newOrder_saved, hi]
  exact savedNamed_eq_some hproper hp hwifi

/-- Another one is unpinned now, or was before. -/
theorem reordered_other (hproper : w.nm.Proper) {order : List Value} {p : Profile} (hp : p ∈ w.nm.profiles)
    (hwifi : p.isWifi = true) (hother : p.name ∉ newOrder toInt w.nm order) :
    (reordered toInt w order p).priority = if p.name ∈ w.pinned then 0 else p.priority := by
  have hnew : p.uuid ∉ ((newOrder toInt w.nm order).filterMap (savedNamed (wifiRows toInt w.nm))).map (·.uuid) :=
    fun hmem => hother ((mem_namedRows hproper hp hwifi _).mp hmem)
  have hold : p.name ∈ w.pinned.filter (fun s => s ∉ newOrder toInt w.nm order) ↔ p.name ∈ w.pinned := by
    rw [List.mem_filter, decide_eq_true_eq]
    exact ⟨fun h => h.1, fun h => ⟨h, hother⟩⟩
  unfold reordered cleared
  simp only [assigned_of_not_mem hnew, mem_namedRows hproper hp hwifi, hold]
  split
  next => rfl
  next => rfl

/-- **A new order keeps the bands.** -/
theorem Banded.setOrder (h : Banded w) (hreadable : w.nm.Readable) {xs : List Value}
    (hshort : (cleanedOrder xs).length ≤ wifiPinnedMax) : Banded (w.setOrder toInt true (.arr xs)).1 := by
  obtain ⟨hfile, hprofiles⟩ := @setOrder_eq toInt _ h.proper hreadable _ hshort
  have hpinned : (w.setOrder toInt true (.arr xs)).1.pinned = newOrder toInt w.nm xs := by
    show loadPinned _ = _
    rw [hfile]
    exact loadPinned_pinnedFile fun s hs => (cleanedOrder_spec xs).2 s (List.mem_of_mem_filter hs)
  -- a profile afterwards is one of before
  have hmade : ∀ p' ∈ (w.setOrder toInt true (.arr xs)).1.nm.profiles, p'.isWifi = true →
      ∃ p ∈ w.nm.profiles, p.isWifi = true ∧ p'.name = p.name ∧ p' = reordered toInt w xs p := by
    intro p' hp' hwifi
    rw [hprofiles] at hp'
    obtain ⟨p, hp, rfl⟩ := List.mem_map.mp hp'
    obtain ⟨-, hname, htype, -⟩ := @reordered_same toInt w xs p
    exact ⟨p, hp, (isWifi_of_type htype).symm.trans hwifi, hname, rfl⟩
  refine ⟨?_, by rw [hpinned]; exact nodup_newOrder xs, ?_, fun s hs => ?_, fun p' hp' hwifi i hi => ?_,
    fun p' hp' hwifi hother => ?_⟩
  · refine @Nm.Proper.of_profiles _ _ h.proper (reordered toInt w xs) (fun _ => true) (reordered_same xs) ?_
    exact hprofiles.trans (List.filter_eq_self.mpr fun _ _ => rfl).symm
  · rw [hpinned]
    exact (List.length_filter_le _ _).trans hshort
  · rw [hpinned] at hs
    obtain ⟨c, hc⟩ := Option.isSome_iff_exists.mp (newOrder_saved s hs)
    obtain ⟨p, hp, hwifi, hname, -⟩ := savedNamed_some hc
    obtain ⟨-, hsame, htype, -⟩ := @reordered_same toInt w xs p
    refine ⟨reordered toInt w xs p, ?_, (isWifi_of_type htype).trans hwifi, hsame.trans hname⟩
    rw [hprofiles]
    exact List.mem_map_of_mem hp
  · obtain ⟨p, hp, hpw, hname, rfl⟩ := hmade p' hp' hwifi
    rw [hpinned, hname] at hi
    exact reordered_pinned h.proper hp hpw hi
  · obtain ⟨p, hp, hpw, hname, rfl⟩ := hmade p' hp' hwifi
    rw [hpinned, hname] at hother
    rw [reordered_other h.proper hp hpw hother]
    split
    next => decide
    next hold => exact h.otherBand p hp hpw hold

/-- No profile is deleted by a new order. -/
theorem setOrder_stays (hproper : w.nm.Proper) (hreadable : w.nm.Readable) {xs : List Value}
    (hshort : (cleanedOrder xs).length ≤ wifiPinnedMax) {p : Profile} (hp : p ∈ w.nm.profiles) :
    ∃ p' ∈ (w.setOrder toInt true (.arr xs)).1.nm.profiles,
      p'.uuid = p.uuid ∧ p'.name = p.name ∧ p'.isWifi = p.isWifi := by
  obtain ⟨huuid, hname, htype, -⟩ := @reordered_same toInt w xs p
  refine ⟨reordered toInt w xs p, ?_, huuid, hname, isWifi_of_type htype⟩
  rw [(setOrder_eq hproper hreadable hshort).2]
  exact List.mem_map_of_mem hp

end Order

end Calls

/-! ## Runs -/

inductive WifiEvent where
  | setOrder (enabled : Bool) (order : Value)
  | promote (activeSsid : PyStr) (keep : Int)
  | outside (nm : Nm)

/-- What others do to the profiles between two calls: none is taken away or changed in what the
priorities depend on, and a new one has the priority 0. -/
structure Appeared (old new : Nm) : Prop where
  proper : new.Proper
  stays : ∀ p ∈ old.profiles, ∃ p' ∈ new.profiles,
    p'.uuid = p.uuid ∧ p'.name = p.name ∧ p'.type = p.type ∧ p'.priority = p.priority
  fresh : ∀ p' ∈ new.profiles, p'.priority = 0 ∨ ∃ p ∈ old.profiles,
    p'.uuid = p.uuid ∧ p'.name = p.name ∧ p'.type = p.type ∧ p'.priority = p.priority

section Runs

variable (toInt : PyStr → Option Int)

def WifiWorld.next (w : WifiWorld) : WifiEvent → WifiWorld
  | .setOrder enabled order => (w.setOrder toInt enabled order).1
  | .promote activeSsid keep => (w.promote toInt activeSsid keep).1
  | .outside nm => { w with nm := nm }

/-- The events that there are. -/
def WifiWorld.Allowed (w : WifiWorld) : WifiEvent → Prop
  | .setOrder _ _ => True
  | .promote _ keep => 1 ≤ keep ∧ keep ≤ wifiPriorityBase
  | .outside nm => Appeared w.nm nm

/-- Where the saved profiles are read, no name of a Wi-Fi profile has a line break in it. -/
def WifiWorld.ReadWhole (w : WifiWorld) : WifiEvent → Prop
  | .setOrder enabled order => ReadsSaved enabled order → w.nm.Readable
  | .promote _ _ => w.nm.Readable
  | .outside _ => True

/-- Nothing is pinned, and every priority is 0. -/
structure WifiWorld.Fresh (w : WifiWorld) : Prop where
  file : w.file = none
  proper : w.nm.Proper
  priorities : ∀ p ∈ w.nm.profiles, p.priority = 0

/-- The bands are kept: the priorities are in order at every point, no call takes a pinned profile
away, and a promotion leaves what it is to leave. -/
structure BandsKept (w : WifiWorld) (events : List WifiEvent) : Prop where
  inOrder : ∀ i, InOrder (stateAt (WifiWorld.next toInt) w events i)
  survives : ∀ i e, events[i]? = some e → ∀ p ∈ (stateAt (WifiWorld.next toInt) w events i).nm.profiles,
    p.name ∈ (stateAt (WifiWorld.next toInt) w events i).pinned →
    ∃ p' ∈ (stateAt (WifiWorld.next toInt) w events (i + 1)).nm.profiles,
      p'.uuid = p.uuid ∧ p'.name = p.name
  promoted : ∀ i activeSsid keep, events[i]? = some (.promote activeSsid keep) →
    Promoted (stateAt (WifiWorld.next toInt) w events i) (stateAt (WifiWorld.next toInt) w events (i + 1))
      activeSsid keep
      ((stateAt (WifiWorld.next toInt) w events i).promote toInt activeSsid keep).2.kept

variable {toInt} {w : WifiWorld}

theorem WifiWorld.Fresh.banded (h : w.Fresh) : Banded w := by
  have hpinned : w.pinned = [] := by
    unfold WifiWorld.pinned
    rw [h.file]
    rfl
  refine ⟨h.proper, by rw [hpinned]; exact List.nodup_nil, by rw [hpinned]; exact Nat.zero_le _,
    fun s hs => ?_, fun p _ _ i hi => ?_, fun p hp _ _ => ?_⟩
  · rw [hpinned] at hs
    cases hs
  · rw [hpinned] at hi
    cases hi
  · rw [h.priorities p hp]
    decide

theorem Banded.outside (h : Banded w) {nm : Nm} (happeared : Appeared w.nm nm) :
    Banded { w with nm := nm } := by
  refine ⟨happeared.proper, h.nodup, h.short, fun s hs => ?_, fun p' hp' hwifi i hi => ?_,
    fun p' hp' hwifi hother => ?_⟩
  · obtain ⟨p, hp, hpw, hname⟩ := h.saved s hs
    obtain ⟨p', hp', -, hname', htype, -⟩ := happeared.stays p hp
    exact ⟨p', hp', (isWifi_of_type htype).trans hpw, hname'.trans hname⟩
  · -- the pinned name is that of an old profile, and there is only one of its name
    obtain ⟨p, hp, hpw, hname⟩ := h.saved p'.name (List.mem_of_getElem? hi)
    obtain ⟨p'', hp'', -, hname'', htype, hpriority⟩ := happeared.stays p hp
    have heq : p'' = p' := happeared.proper.eq_of_name hp'' hp' ((isWifi_of_type htype).trans hpw) hwifi
      (hname''.trans hname)
    rw [← heq, hpriority]
    exact h.pinnedBand p hp hpw i (by rw [hname]; exact hi)
  · rcases happeared.fresh p' hp' with hzero | ⟨p, hp, -, hname, htype, hpriority⟩
    · rw [hzero]
      decide
    · rw [hpriority]
      exact h.otherBand p hp ((isWifi_of_type htype).symm.trans hwifi) (by rw [← hname]; exact hother)

/-- **One step keeps the bands.** -/
theorem Banded.next (h : Banded w) {e : WifiEvent} (hallowed : w.Allowed e) (hread : w.ReadWhole e) :
    Banded (w.next toInt e) := by
  cases e with
  | setOrder enabled order =>
    by_cases hreads : ReadsSaved enabled order
    · have hreadable : w.nm.Readable := hread hreads
      obtain ⟨rfl, xs, rfl, hshort⟩ := hreads
      exact h.setOrder hreadable hshort
    · show Banded (w.setOrder toInt enabled order).1
      rw [setOrder_of_not_reads hreads]
      exact h
  | promote activeSsid keep => exact h.promote hread hallowed.1 hallowed.2
  | outside nm => exact h.outside hallowed

/-- One step takes no pinned profile away. -/
theorem pinned_survives (h : Banded w) {e : WifiEvent} (hallowed : w.Allowed e) (hread : w.ReadWhole e)
    {p : Profile} (hp : p ∈ w.nm.profiles) (hpinned : p.name ∈ w.pinned) :
    ∃ p' ∈ (w.next toInt e).nm.profiles, p'.uuid = p.uuid ∧ p'.name = p.name := by
  cases e with
  | setOrder enabled order =>
    by_cases hreads : ReadsSaved enabled order
    · have hreadable : w.nm.Readable := hread hreads
      obtain ⟨rfl, xs, rfl, hshort⟩ := hreads
      obtain ⟨p', hp', huuid, hname, -⟩ := @setOrder_stays toInt _ h.proper hreadable _ hshort _ hp
      exact ⟨p', hp', huuid, hname⟩
    · show ∃ p' ∈ (w.setOrder toInt enabled order).1.nm.profiles, _
      rw [setOrder_of_not_reads hreads]
      exact ⟨p, hp, rfl, rfl⟩
  | promote activeSsid keep =>
    obtain ⟨p', hp', huuid, hname, -⟩ := @pinned_promoted toInt _ activeSsid _
      h.proper hread hallowed.1 _ hp hpinned
    exact ⟨p', hp', huuid, hname⟩
  | outside nm =>
    obtain ⟨p', hp', huuid, hname, -⟩ := hallowed.stays p hp
    exact ⟨p', hp', huuid, hname⟩

/-- **The bands are kept in every run in which each name is read as a whole.** -/
theorem bands_kept (toInt : PyStr → Option Int) (w : WifiWorld) (hfresh : w.Fresh) (events : List WifiEvent)
    (hallowed : Along (WifiWorld.next toInt) WifiWorld.Allowed w events)
    (hread : Along (WifiWorld.next toInt) WifiWorld.ReadWhole w events) : BandsKept toInt w events := by
  have hbanded : ∀ i, Banded (stateAt (WifiWorld.next toInt) w events i) := fun i =>
    stateAt_inv hfresh.banded (fun i e he h => h.next (hallowed.at i e he) (hread.at i e he)) i
  refine ⟨fun i => (hbanded i).inOrder, fun i e he p hp hpinned => ?_, fun i activeSsid keep he => ?_⟩
  · rw [stateAt_succ he]
    exact pinned_survives (hbanded i) (hallowed.at i e he) (hread.at i e he) hp hpinned
  · obtain ⟨hkeep, hmax⟩ := hallowed.at i _ he
    rw [stateAt_succ he]
    exact promoted (hbanded i) (hread.at i _ he) hkeep hmax

/-! The sample hosts: a few profiles that were last active in turn. -/

/-- `int` of digits. -/
def digitsToInt (s : PyStr) : Option Int := some (s.foldl (fun n c => 10 * n + ((c : Int) - 48)) 0)

def sampleProfile (uuid : String) (name : PyStr) (timestamp : String) : Profile where
  uuid := lit uuid
  name := name
  type := lit "802-11-wireless"
  timestamp := lit timestamp

def sampleHost (profiles : List Profile) : WifiWorld := { nm := { devices := [], profiles := profiles } }

def plainHost : WifiWorld :=
  sampleHost [sampleProfile "u1" (lit "home") "200", sampleProfile "u2" (lit "cafe:1") "100",
    sampleProfile "u3" (lit "phone") "50"]

/-- The phone is pinned, and the network of the cafe kept alone. -/
def plainCalls : List WifiEvent :=
  [.setOrder true (.arr [.str (lit " phone "), .str (lit "none such")]), .promote (lit "cafe:1") 1,
    .promote (lit "phone") 3]

theorem bands_kept_plain : BandsKept digitsToInt plainHost plainCalls :=
  bands_kept digitsToInt plainHost ⟨rfl, ⟨by decide, by decide, by decide⟩, by decide⟩ plainCalls
    ⟨trivial, ⟨by decide, by decide⟩, ⟨by decide, by decide⟩, trivial⟩
    ⟨fun _ => by unfold Nm.Readable; decide +kernel, by
      show Nm.Readable _
      unfold Nm.Readable
      decide +kernel, by
      show Nm.Readable _
      unfold Nm.Readable
      decide +kernel, trivial⟩

/-- The name of a network: `x`, U+2028 and `cafe`. -/
def brokenName : PyStr := [0x78, 0x2028] ++ lit "cafe"

def brokenHost : WifiWorld :=
  sampleHost [sampleProfile "u1" (lit "home") "200", sampleProfile "u2" brokenName "100"]

/-- The network that has just been connected to is deleted: its profile is read as that of `cafe`. -/
theorem connected_pruned : brokenHost.Fresh
    ∧ Along (WifiWorld.next digitsToInt) WifiWorld.Allowed brokenHost [.promote brokenName 1]
    ∧ (brokenHost.promote digitsToInt brokenName 1).2.deleted = [lit "cafe"]
    ∧ ¬ BandsKept digitsToInt brokenHost [.promote brokenName 1] := by
  refine ⟨⟨rfl, ⟨by decide, by decide, by decide⟩, by decide⟩, ⟨⟨by decide, by decide⟩, trivial⟩, by decide +kernel,
    fun h => ?_⟩
  obtain ⟨p', hp', -, hname, -⟩ := (h.promoted 0 brokenName 1 rfl).active
    (sampleProfile "u2" brokenName "100") (by decide +kernel) rfl
  revert p'
  decide +kernel

end Runs

end EdgeSensor.Console
