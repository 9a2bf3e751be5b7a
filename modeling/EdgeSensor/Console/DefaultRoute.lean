import EdgeSensor.Console.WifiLinks
import EdgeSensor.Lib.Run

/-!
# One default route

While a Wi-Fi device is connected, exactly one should carry the default route, and after
`set_primary` the one it names. That is so after each call of a run if each leaves it so
(`one_default_route`). What `connect`, `set_primary` and `disconnect` do to the links is theirs to
keep with every command that fails or is left out: `disconnect` gives the default route to nobody
else, and `connect` without an interface sets nothing (`default_route_lost`).
-/

namespace EdgeSensor.Console

open EdgeSensor.Lib EdgeSensor.Py

/-! ## `_set_device_never_default` -/

section Flag

variable {nm : Nm} {x uuid : PyStr} {b : Bool}

/-- The device has gone down. -/
def UpReply.dropped : UpReply → Bool
  | .done => false
  | .failed dropped => dropped
  | .timedOut dropped => dropped

def UpReply.isTimedOut : UpReply → Bool
  | .timedOut _ => true
  | _ => false

/-- The flag is set. -/
def FlagReplies.set (r : FlagReplies) : Bool := r.active && r.modify.carriedOut

/-- The device goes down with it. -/
def FlagReplies.dropped (r : FlagReplies) : Bool :=
  r.active && decide (r.modify = .done) && r.up.dropped

/-- It is reported as done. -/
def FlagReplies.ok (r : FlagReplies) : Bool :=
  r.active && decide (r.modify = .done) && !r.up.isTimedOut

/-- The flag comes to this. -/
def FlagReplies.leaves (r : FlagReplies) (b : Bool) (neverDefault : Bool) : Option Bool :=
  if r.dropped then none else if r.set then some !neverDefault else some b

theorem FlagReplies.set_of_dropped {r : FlagReplies} (h : r.dropped = true) : r.set = true := by
  unfold FlagReplies.dropped at h
  rw [Bool.and_eq_true, Bool.and_eq_true, decide_eq_true_eq] at h
  unfold FlagReplies.set
  rw [h.1.1, h.1.2]
  rfl

theorem FlagReplies.set_of_ok {r : FlagReplies} (h : r.ok = true) : r.set = true := by
  unfold FlagReplies.ok at h
  rw [Bool.and_eq_true, Bool.and_eq_true, decide_eq_true_eq] at h
  unfold FlagReplies.set
  rw [h.1.1, h.1.2]
  rfl

theorem up_spec (h : nm.Sound) (hlink : nm.links x = some b) (hactive : nm.activeOf x = some uuid)
    (reply : UpReply) : nm.Follows (nm.up x uuid reply)
      ∧ (nm.up x uuid reply).links = if reply.dropped then Function.update nm.links x none else nm.links := by
  have hdown : ∀ dropped : Bool, nm.Follows (if dropped then nm.disconnect x else nm)
      ∧ (if dropped then nm.disconnect x else nm).links
        = if dropped then Function.update nm.links x none else nm.links := by
    intro dropped
    cases dropped with
    | true => exact ⟨Nm.follows_disconnect nm x, Nm.links_disconnect nm x⟩
    | false => exact ⟨.refl nm, rfl⟩
  cases reply with
  | failed dropped => exact hdown dropped
  | timedOut dropped => exact hdown dropped
  | done =>
    have hne : nm.links x ≠ none := by
      rw [hlink]
      exact Option.some_ne_none b
    refine ⟨Nm.follows_activate h hne hactive, ?_⟩
    obtain ⟨d, hd, rfl, hdlink⟩ := (Nm.links_eq_some h).mp hlink
    obtain ⟨hwifi, -, p, hp, hb⟩ := Nm.link_eq_some.mp hdlink
    obtain ⟨hdactive, hmem⟩ := Nm.activeProfile_eq_some hp
    have huuid : p.uuid = uuid := by
      rw [Nm.activeOf_of_mem h hd, hdactive, Option.some.injEq] at hactive
      exact hactive
    subst huuid
    show (nm.activate d.name p.uuid).links = nm.links
    rw [Nm.links_activate h hd hwifi hmem]
    funext y
    by_cases hy : y = d.name
    · rw [if_pos hy, hy, hlink, hb]
    · rw [if_neg hy]
      split
      next hsame =>
        -- no other device has the profile
        obtain ⟨d', hd', hactive'⟩ := Option.bind_eq_some_iff.mp hsame
        obtain ⟨hmem', rfl⟩ := (Nm.device?_eq_some h).mp hd'
        exact absurd (congrArg Device.name (h.actives d' hmem' d hd p.uuid hactive' hdactive)) hy
      next => rfl

theorem setNeverDefault_spec (h : nm.Sound) (hlink : nm.links x = some b)
    (hactive : nm.activeOf x = some uuid) (reply : Reply) (flag : Bool) :
    nm.Follows (nm.setNeverDefault reply uuid flag)
      ∧ (nm.setNeverDefault reply uuid flag).activeOf x = some uuid
      ∧ (nm.setNeverDefault reply uuid flag).links
        = Function.update nm.links x (some (if reply.carriedOut then !flag else b)) := by
  unfold Nm.setNeverDefault
  cases reply.carriedOut with
  | true =>
    have hfollows := Nm.follows_modify (f := fun p => { p with neverDefault := flag })
      (fun _ => ⟨rfl, rfl, rfl, rfl⟩) nm uuid
    refine ⟨hfollows, hactive, ?_⟩
    have hset := Nm.links_setNeverDefault h hactive flag
    rw [hlink] at hset
    exact hset
  | false =>
    refine ⟨.refl nm, hactive, ?_⟩
    show nm.links = Function.update nm.links x (some b)
    rw [← hlink, Function.update_eq_self]

/-- **What `_set_device_never_default` does for a connected device.** -/
theorem setDeviceNeverDefault_spec (h : nm.Sound) (hlegible : nm.Legible) (hlink : nm.links x = some b)
    (r : FlagReplies) (flag : Bool) : (setDeviceNeverDefault r nm x flag).2 = r.ok
      ∧ nm.Follows (setDeviceNeverDefault r nm x flag).1
      ∧ (setDeviceNeverDefault r nm x flag).1.links = Function.update nm.links x (r.leaves b flag) := by
  obtain ⟨p, hactive, -, hp, hreads, hconn⟩ := activeConnectionFor_links h hlegible hlink
  unfold setDeviceNeverDefault FlagReplies.leaves FlagReplies.dropped FlagReplies.ok FlagReplies.set
  cases hread : r.active with
  | false =>
    have hnone : activeConnectionFor none x = none := rfl
    rw [if_neg (by decide), hnone]
    refine ⟨rfl, .refl nm, ?_⟩
    show nm.links = Function.update nm.links x (some b)
    rw [← hlink, Function.update_eq_self]
  | true =>
    rw [if_pos rfl, hconn]
    simp only [hreads.2.1, if_false, named_of_readsName h hp hreads, Bool.true_and]
    obtain ⟨hfollows, hactive', hset⟩ := setNeverDefault_spec h hlink hactive r.modify flag
    generalize nm.setNeverDefault r.modify p.uuid flag = after at hfollows hactive' hset
    cases hmodify : r.modify with
    | failed =>
      rw [hmodify] at hset
      exact ⟨rfl, hfollows, hset⟩
    | timedOut carriedOut =>
      rw [hmodify] at hset
      cases carriedOut with
      | true => exact ⟨rfl, hfollows, hset⟩
      | false => exact ⟨rfl, hfollows, hset⟩
    | done =>
      rw [hmodify] at hset
      have hlink' : after.links x = some !flag := by
        rw [hset, Function.update_self]
        rfl
      obtain ⟨hup, hlinks⟩ := up_spec (hfollows.sound h) hlink' hactive' r.up
      have hall : nm.Follows (after.up x p.uuid r.up) := hfollows.trans hup
      have hleaves : (after.up x p.uuid r.up).links
          = Function.update nm.links x (if r.up.dropped then none else some !flag) := by
        rw [hlinks, hset]
        split
        next => rw [Function.update_idem]
        next => rfl
      cases hreply : r.up with
      | done =>
        rw [hreply] at hall hleaves
        exact ⟨rfl, hall, hleaves⟩
      | failed dropped =>
        rw [hreply] at hall hleaves
        exact ⟨rfl, hall, hleaves⟩
      | timedOut dropped =>
        rw [hreply] at hall hleaves
        exact ⟨rfl, hall, hleaves⟩

end Flag

/-! ## `disconnect` -/

/-- The device that goes down may leave. -/
def DisconnectReplies.Kept (r : DisconnectReplies) (nm : Nm) (iface : Option PyStr) : Prop :=
  r.enabled = true → r.reply.carriedOut = true → ∀ dev ∈ disconnectTarget r nm iface, MayLeave nm.links dev

theorem disconnect_single {nm : Nm} {r : DisconnectReplies} {iface : Option PyStr} (h : nm.Sound)
    (hsingle : Single nm.links) (hkept : r.Kept nm iface) :
    (disconnect r nm iface).1.Sound ∧ Single (disconnect r nm iface).1.links := by
  have hafter : ∀ dev ∈ disconnectTarget r nm iface, r.enabled = true →
      (if r.reply.carriedOut then nm.disconnect dev else nm).Sound
        ∧ Single (if r.reply.carriedOut then nm.disconnect dev else nm).links := by
    intro dev hdev henabled
    cases hcarried : r.reply.carriedOut with
    | false => exact ⟨h, hsingle⟩
    | true =>
      rw [if_pos rfl, Nm.links_disconnect]
      exact ⟨(Nm.follows_disconnect nm dev).sound h, hsingle.leave (hkept henabled hcarried dev hdev)⟩
  unfold disconnect
  cases henabled : r.enabled with
  | false => exact ⟨h, hsingle⟩
  | true =>
    rw [if_neg (by decide)]
    cases htarget : disconnectTarget r nm iface with
    | none => exact ⟨h, hsingle⟩
    | some dev =>
      have hdone := hafter dev htarget henabled
      cases hreply : r.reply with
      | done =>
        rw [hreply] at hdone
        exact hdone
      | failed =>
        rw [hreply] at hdone
        exact hdone
      | timedOut carriedOut =>
        rw [hreply] at hdone
        exact hdone

/-! ## `set_primary` -/

section Primary

variable {nm : Nm} {r : PrimaryReplies} {iface : PyStr}

/-- A device loses the default route, if it is connected and another one. -/
theorem demote_spec (flag : PyStr → FlagReplies) {u : PyStr → Option Bool} {d : DeviceRow}
    (hrow : deviceConnected d = (u d.device).isSome) (h : nm.Sound) (hlegible : nm.Legible)
    (hsame : d.device ≠ iface → nm.links d.device = u d.device) {after : Nm}
    (hafter : (if d.device = iface || !deviceConnected d then nm
      else (setDeviceNeverDefault (flag d.device) nm d.device true).1) = after) :
    after.Sound ∧ after.Legible ∧ ∀ x, after.links x =
      if x ≠ iface ∧ x = d.device then (u x).bind fun b => (flag x).leaves b true else nm.links x := by
  by_cases hiface : d.device = iface
  · rw [if_pos (by simp [hiface])] at hafter
    subst hafter
    refine ⟨h, hlegible, fun x => (if_neg ?_).symm⟩
    rintro ⟨hne, rfl⟩
    exact hne hiface
  · have hlinkd := hsame hiface
    cases hlink : u d.device with
    | none =>
      rw [if_pos (by rw [hrow, hlink]; simp)] at hafter
      subst hafter
      refine ⟨h, hlegible, fun x => ?_⟩
      split
      next hx =>
        rw [hx.2, hlink, hlinkd, hlink]
        rfl
      next => rfl
    | some b =>
      rw [if_neg (by rw [hrow, hlink]; simp [hiface])] at hafter
      rw [hlink] at hlinkd
      obtain ⟨-, hfollows, hlinks⟩ := setDeviceNeverDefault_spec h hlegible hlinkd (flag d.device) true
      rw [hafter] at hfollows hlinks
      refine ⟨hfollows.sound h, hfollows.legible hlegible, fun x => ?_⟩
      rw [hlinks]
      by_cases hx : x = d.device
      · subst hx
        rw [Function.update_self, if_pos ⟨hiface, rfl⟩, hlink, Option.bind_some]
      · rw [Function.update_of_ne hx, if_neg fun hboth => hx hboth.2]

/-- What the others' links come to. -/
theorem demoteRest_spec {flag : PyStr → FlagReplies} {u : PyStr → Option Bool} {devices : List DeviceRow}
    (hrows : ∀ d ∈ devices, deviceConnected d = (u d.device).isSome)
    (hnames : (devices.map (·.device)).Nodup) (h : nm.Sound) (hlegible : nm.Legible)
    (hsame : ∀ d ∈ devices, d.device ≠ iface → nm.links d.device = u d.device) :
    (demoteRest flag iface nm devices).Sound ∧ ∀ x, (demoteRest flag iface nm devices).links x =
      if x ≠ iface ∧ x ∈ devices.map (·.device) then (u x).bind fun b => (flag x).leaves b true
      else nm.links x := by
  induction devices generalizing nm with
  | nil => exact ⟨h, fun x => (if_neg fun hx => absurd hx.2 List.not_mem_nil).symm⟩
  | cons d devices ih =>
    rw [List.map_cons, List.nodup_cons] at hnames
    obtain ⟨hsound, hlegible', hlinks⟩ := demote_spec flag (hrows d List.mem_cons_self) h hlegible
      (hsame d List.mem_cons_self) rfl
    obtain ⟨hsound', hlinks'⟩ := ih (fun d hd => hrows d (List.mem_cons_of_mem _ hd)) hnames.2 hsound
      hlegible' fun d' hd' hne => by
        have hother : d'.device ≠ d.device := fun heq => hnames.1 (heq ▸ List.mem_map_of_mem hd')
        rw [hlinks, if_neg fun hx => hother hx.2]
        exact hsame d' (List.mem_cons_of_mem _ hd') hne
    refine ⟨hsound', fun x => ?_⟩
    rw [demoteRest, hlinks', hlinks, List.map_cons]
    by_cases hx : x = d.device
    · subst hx
      rw [if_neg fun hx => hnames.1 hx.2]
      simp only [List.mem_cons, true_or]
    · simp only [List.mem_cons, hx, false_or, and_false, if_false]

/-- The flags are set as they have to be. If the call is not ok, its device had the default route
before, or may leave; if it is, all others that had it lose it, and the device itself does not go down
while another one stays. -/
def PrimaryReplies.Kept (r : PrimaryReplies) (nm : Nm) (iface : PyStr) : Prop :=
  r.enabled = true → validIface iface = true → r.status = true →
    nm.Legible ∧ ∀ b, nm.links iface = some b → (r.flag iface).set = true →
      if (r.flag iface).ok = true then
        (∀ x, x ≠ iface → nm.links x = some true → (r.flag x).set = true)
          ∧ ((r.flag iface).dropped = true → ∀ x, nm.links x ≠ none → (r.flag x).dropped = true)
      else if (r.flag iface).dropped = true then MayLeave nm.links iface
      else b = true

/-- What `set_primary` comes to: nothing, or its device is connected and its flag is set. -/
theorem setPrimary_cases (h : nm.Sound) (hlegible : r.enabled = true → validIface iface = true →
    r.status = true → nm.Legible) :
    (setPrimary r nm iface).1 = nm ∧ (setPrimary r nm iface).2.isOk = false
      ∨ (r.enabled = true ∧ validIface iface = true ∧ r.status = true) ∧ ∃ b, nm.links iface = some b
        ∧ (setPrimary r nm iface).2.isOk = (r.flag iface).ok
        ∧ (setPrimary r nm iface).1.Sound
        ∧ ∀ x, (setPrimary r nm iface).1.links x = if x = iface then (r.flag iface).leaves b false
          else if (r.flag iface).ok = true then (nm.links x).bind fun b => (r.flag x).leaves b true
          else nm.links x := by
  unfold setPrimary
  cases henabled : r.enabled with
  | false => exact .inl ⟨rfl, rfl⟩
  | true =>
    rw [if_neg (by decide)]
    cases hvalid : validIface iface with
    | false =>
      rw [if_pos (by simp)]
      exact .inl ⟨rfl, rfl⟩
    | true =>
      have hne : iface ≠ [] := by
        rintro rfl
        cases hvalid
      rw [if_neg (by simp [hne])]
      cases hstatus : r.status with
      | false => exact .inl ⟨rfl, rfl⟩
      | true =>
        have hleg := hlegible henabled hvalid hstatus
        rw [if_pos rfl, wifiDevices_show h]
        have hrows : ∀ row ∈ (nm.devices.filter (·.isWifi)).map (rowOfDevice nm),
            deviceConnected row = (nm.links row.device).isSome := by
          intro row hrow
          obtain ⟨d, hd, rfl⟩ := List.mem_map.mp hrow
          obtain ⟨hmem, hwifi⟩ := List.mem_filter.mp hd
          rw [deviceConnected_row hleg hmem hwifi, ← Nm.links_of_mem h hmem]
          rfl
        have hnames : ((nm.devices.filter (·.isWifi)).map (rowOfDevice nm)).map (·.device)
            = (nm.devices.filter (·.isWifi)).map (·.name) := by
          rw [List.map_map]
          rfl
        have hlisted : ∀ x, x ∉ (nm.devices.filter (·.isWifi)).map (·.name) → nm.links x = none := by
          intro x hx
          cases hlink : nm.links x with
          | none => rfl
          | some b =>
            obtain ⟨d, hmem, rfl, hdlink⟩ := (Nm.links_eq_some h).mp hlink
            exact absurd (List.mem_map_of_mem (List.mem_filter.mpr ⟨hmem, (Nm.link_eq_some.mp hdlink).1⟩)) hx
        generalize (nm.devices.filter (·.isWifi)).map (rowOfDevice nm) = rows at hrows hnames
        cases hfind : rows.find? fun d => d.device = iface with
        | none =>
          simp only [hfind]
          exact .inl ⟨trivial, rfl⟩
        | some target =>
          obtain ⟨hmem, hname⟩ := mem_of_find?_key hfind
          have hconnected := hrows target hmem
          rw [hname] at hconnected
          cases hlink : nm.links iface with
          | none =>
            rw [hlink] at hconnected
            simp only [hfind, hconnected, Option.isSome_none, Bool.not_false, if_true]
            exact .inl ⟨trivial, rfl⟩
          | some b =>
            rw [hlink] at hconnected
            simp only [hfind, hconnected, Option.isSome_some, Bool.not_true, Bool.false_eq_true, if_false]
            obtain ⟨hok, hfollows, hlinks⟩ := setDeviceNeverDefault_spec h hleg hlink (r.flag iface) false
            generalize setDeviceNeverDefault (r.flag iface) nm iface false = result at hok hfollows hlinks
            obtain ⟨after, ok⟩ := result
            cases ok with
            | false =>
              refine .inr ⟨⟨trivial, trivial, trivial⟩, b, rfl, hok, hfollows.sound h, fun x => ?_⟩
              rw [← hok]
              show after.links x = if x = iface then (r.flag iface).leaves b false else nm.links x
              have hlinks : after.links = _ := hlinks
              rw [hlinks, Function.update_apply]
            | true =>
              obtain ⟨hsound, hrest⟩ := @demoteRest_spec after iface r.flag nm.links rows hrows (by
                  rw [hnames]
                  exact (List.filter_sublist.map _).nodup h.names)
                (hfollows.sound h) (hfollows.legible hleg) fun d _ hne => by
                  rw [hlinks]
                  exact Function.update_of_ne hne _ _
              refine .inr ⟨⟨trivial, trivial, trivial⟩, b, rfl, hok, hsound, fun x => ?_⟩
              have hlinks : after.links = _ := hlinks
              rw [← hok]
              show (demoteRest r.flag iface after rows).links x = if x = iface then (r.flag iface).leaves b false
                else (nm.links x).bind fun b => (r.flag x).leaves b true
              rw [hrest, hnames, hlinks]
              by_cases hx : x = iface
              · rw [if_neg fun hboth => hboth.1 hx, if_pos hx, hx, Function.update_self]
              · rw [Function.update_of_ne hx, if_neg hx]
                by_cases hin : x ∈ (nm.devices.filter (·.isWifi)).map (·.name)
                · rw [if_pos ⟨hx, hin⟩]
                · rw [if_neg fun hboth => hin hboth.2, hlisted x hin]
                  rfl

/-- A call keeps the law, and the device of one that is ok has the default route. -/
theorem setPrimary_single (h : nm.Sound) (hsingle : Single nm.links) (hkept : r.Kept nm iface) :
    (setPrimary r nm iface).1.Sound ∧ Single (setPrimary r nm iface).1.links
      ∧ ((setPrimary r nm iface).2.isOk = true → ∀ x, (setPrimary r nm iface).1.links x ≠ none →
        (setPrimary r nm iface).1.links iface = some true) := by
  rcases setPrimary_cases h fun henabled hvalid hstatus => (hkept henabled hvalid hstatus).1 with
    ⟨hsame, hok⟩ | ⟨⟨henabled, hvalid, hstatus⟩, b, hlink, hok, hsound, hlinks⟩
  · rw [hsame, hok]
    exact ⟨h, hsingle, fun hfalse => absurd hfalse (by decide)⟩
  · have hset := (hkept henabled hvalid hstatus).2 b hlink
    generalize (setPrimary r nm iface).1 = after at hsound hlinks
    rw [hok]
    refine ⟨hsound, ?_⟩
    have hself : after.links iface = (r.flag iface).leaves b false := (hlinks iface).trans (if_pos rfl)
    cases hresult : (r.flag iface).ok with
    | false =>
      rw [hresult] at hset hlinks
      have hothers : ∀ x, x ≠ iface → after.links x = nm.links x := fun x hx => (hlinks x).trans (if_neg hx)
      have hafter : after.links = Function.update nm.links iface ((r.flag iface).leaves b false) := by
        funext x
        by_cases hx : x = iface
        · rw [hx, hself, Function.update_self]
        · rw [hothers x hx, Function.update_of_ne hx]
      refine ⟨?_, fun hfalse => absurd hfalse (by decide)⟩
      rw [hafter]
      unfold FlagReplies.leaves
      cases hdropped : (r.flag iface).dropped with
      | true =>
        have hset' : (r.flag iface).set = true := FlagReplies.set_of_dropped hdropped
        have hmay := hset hset'
        rw [if_neg (by decide), if_pos hdropped] at hmay
        rw [if_pos rfl]
        exact hsingle.leave hmay
      | false =>
        have hsame : Function.update nm.links iface (some b) = nm.links := by
          rw [← hlink, Function.update_eq_self]
        rw [if_neg (by decide)]
        cases hset' : (r.flag iface).set with
        | false =>
          rw [if_neg (by decide), hsame]
          exact hsingle
        | true =>
          have hb := hset hset'
          rw [if_neg (by decide), if_neg (by rw [hdropped]; decide)] at hb
          rw [if_pos rfl, Bool.not_false, ← hb, hsame]
          exact hsingle
    | true =>
      rw [hresult] at hset hlinks
      obtain ⟨hdemoted, hall⟩ := hset (FlagReplies.set_of_ok hresult)
      have hothers : ∀ x, x ≠ iface → after.links x = (nm.links x).bind fun b => (r.flag x).leaves b true :=
        fun x hx => (hlinks x).trans (if_neg hx)
      cases hdropped : (r.flag iface).dropped with
      | true =>
        -- then all others have gone down too
        have hnone : ∀ x, after.links x = none := by
          intro x
          by_cases hx : x = iface
          · rw [hx, hself, FlagReplies.leaves, if_pos hdropped]
          · rw [hothers x hx]
            cases hxlink : nm.links x with
            | none => rfl
            | some c => exact if_pos (hall hdropped x (by rw [hxlink]; exact Option.some_ne_none c))
        exact ⟨.of_nobody hnone, fun _ x hx => absurd (hnone x) hx⟩
      | false =>
        have howner : after.links iface = some true := by
          rw [hself, FlagReplies.leaves, if_neg (by rw [hdropped]; decide), if_pos (FlagReplies.set_of_ok hresult)]
          rfl
        refine ⟨.of_owner howner fun x hx => ?_, fun _ _ _ => howner⟩
        by_contra hne
        rw [hothers x hne] at hx
        obtain ⟨c, hc, hleaves⟩ := Option.bind_eq_some_iff.mp hx
        unfold FlagReplies.leaves at hleaves
        cases hxset : (r.flag x).set with
        | true =>
          rw [hxset] at hleaves
          cases hxdropped : (r.flag x).dropped <;> simp [hxdropped] at hleaves
        | false =>
          -- it had the default route, and should have lost it
          cases hxdropped : (r.flag x).dropped with
          | true => simp [hxdropped] at hleaves
          | false =>
            simp only [hxdropped, hxset, Bool.false_eq_true, if_false, Option.some.injEq] at hleaves
            rw [hleaves] at hc
            rw [hdemoted x hne hc] at hxset
            cases hxset

end Primary

/-! ## `connect` -/

section Connect

variable {toInt : PyStr → Option Int} {nm nm' : Nm} {d : Device} {p profile : Profile} {x : PyStr}

theorem Nm.Sound.delete (h : nm.Sound) (uuid : PyStr) : (nm.delete uuid).Sound where
  names := by
    have hsame : (nm.delete uuid).devices.map (·.name) = nm.devices.map (·.name) := by
      show (nm.devices.map _).map _ = _
      rw [List.map_map]
      refine List.map_congr_left fun d _ => ?_
      show (if d.active = some uuid then Device.down d else d).name = d.name
      split <;> rfl
    rw [hsame]
    exact h.names
  uuids := (List.filter_sublist.map _).nodup h.uuids
  actives := by
    have hkept : ∀ d : Device, ∀ v, (if d.active = some uuid then Device.down d else d).active = some v →
        d.active = some v := by
      intro d v hv
      split at hv
      next => cases hv
      next => exact hv
    intro d hd d' hd' v hactive hactive'
    obtain ⟨a, ha, rfl⟩ := List.mem_map.mp hd
    obtain ⟨a', ha', rfl⟩ := List.mem_map.mp hd'
    rw [h.actives a ha a' ha' v (hkept a v hactive) (hkept a' v hactive')]
  fields := fun d hd => by
    obtain ⟨a, ha, rfl⟩ := List.mem_map.mp hd
    obtain ⟨hname, htype, hstate⟩ := h.fields a ha
    split
    next => exact ⟨hname, htype, Nm.oneLine_disconnected⟩
    next => exact ⟨hname, htype, hstate⟩

/-- The rows are deleted. -/
theorem deleteRows_spec (delete : PyStr → Reply) (h : nm.Sound) (rows : List SavedRow) :
    (deleteRows delete nm rows).1.Sound ∧ ∀ x, (deleteRows delete nm rows).1.links x =
      if ∃ c ∈ rows, (delete c.uuid).carriedOut = true ∧ nm.activeOf x = some c.uuid then none
      else nm.links x := by
  induction rows generalizing nm with
  | nil => exact ⟨h, fun x => (if_neg fun ⟨c, hc, _⟩ => absurd hc List.not_mem_nil).symm⟩
  | cons c rows ih =>
    show (deleteRows delete (if (delete c.uuid).carriedOut then nm.delete c.uuid else nm) rows).1.Sound ∧
      ∀ x, (deleteRows delete (if (delete c.uuid).carriedOut then nm.delete c.uuid else nm) rows).1.links x = _
    cases hcarried : (delete c.uuid).carriedOut with
    | false =>
      obtain ⟨hsound, hlinks⟩ := ih h
      refine ⟨hsound, fun x => ?_⟩
      rw [if_neg (by decide), hlinks]
      simp only [List.mem_cons, exists_eq_or_imp, hcarried, Bool.false_eq_true, false_and, false_or]
    | true =>
      obtain ⟨hsound, hlinks⟩ := ih (h.delete c.uuid)
      refine ⟨hsound, fun x => ?_⟩
      rw [if_pos rfl, hlinks, Nm.activeOf_delete, Nm.links_delete]
      simp only [List.mem_cons, exists_eq_or_imp, hcarried, true_and]
      by_cases hactive : nm.activeOf x = some c.uuid
      · simp [hactive]
      · simp [hactive]

theorem setPriorities_follows (modify : PyStr → Reply) (base : Int) (nm : Nm) (rows : List SavedRow) :
    nm.Follows (setPriorities modify base nm rows)
      ∧ (setPriorities modify base nm rows).links = nm.links
      ∧ (setPriorities modify base nm rows).devices = nm.devices := by
  induction rows generalizing base nm with
  | nil => exact ⟨.refl nm, rfl, rfl⟩
  | cons c rows ih =>
    obtain ⟨hfollows, hlinks, hdevices⟩ := ih (base - 1) (setPriority nm (modify c.uuid) c.uuid base)
    have hone : nm.Follows (setPriority nm (modify c.uuid) c.uuid base)
        ∧ (setPriority nm (modify c.uuid) c.uuid base).links = nm.links
        ∧ (setPriority nm (modify c.uuid) c.uuid base).devices = nm.devices := by
      unfold setPriority
      split
      next => exact ⟨Nm.follows_modify (f := fun p => { p with autoconnect := true, priority := base })
          (fun _ => ⟨rfl, rfl, rfl, rfl⟩) nm c.uuid,
        Nm.links_modify (f := fun p => { p with autoconnect := true, priority := base })
          (fun _ => rfl) (fun _ => rfl) c.uuid, rfl⟩
      next => exact ⟨.refl nm, rfl, rfl⟩
    exact ⟨hone.1.trans hfollows, hlinks.trans hone.2.1, hdevices.trans hone.2.2⟩

/-- The rows that `promote_and_prune_wifi` deletes. -/
def prunedRows (toInt : PyStr → Option Int) (r : ConnectReplies) (nm : Nm) (ssid : PyStr) : List SavedRow :=
  (unpinnedRows (loadPinned r.pinned) ssid
    (savedWifiConnections toInt (if r.prune.saved then some nm.showSaved else none))).drop wifiHistoryKeep.toNat

/-- The profile that is active on the device is deleted. -/
def Prunes (toInt : PyStr → Option Int) (r : ConnectReplies) (nm : Nm) (ssid x : PyStr) : Prop :=
  ∃ c ∈ prunedRows toInt r nm ssid, (r.prune.delete c.uuid).carriedOut = true ∧ nm.activeOf x = some c.uuid

instance (toInt : PyStr → Option Int) (r : ConnectReplies) (nm : Nm) (ssid x : PyStr) :
    Decidable (Prunes toInt r nm ssid x) := by
  unfold Prunes
  infer_instance

theorem promote_spec (h : nm.Sound) (r : ConnectReplies) (ssid : PyStr) :
    (promoteAndPruneWifi toInt r.prune nm r.pinned ssid wifiHistoryKeep).1.Sound
      ∧ ∀ x, (promoteAndPruneWifi toInt r.prune nm r.pinned ssid wifiHistoryKeep).1.links x =
        if Prunes toInt r nm ssid x then none else nm.links x := by
  have hrows : prunedRows toInt r nm ssid = (unpinnedRows (loadPinned r.pinned) ssid
      (savedWifiConnections toInt (if r.prune.saved then some nm.showSaved else none))).drop
        wifiHistoryKeep.toNat := rfl
  unfold promoteAndPruneWifi
  rw [if_neg (by decide)]
  by_cases hnil : savedWifiConnections toInt (if r.prune.saved then some nm.showSaved else none) = []
  · rw [hnil] at hrows
    have hnone : ∀ x, ¬ Prunes toInt r nm ssid x := by
      rintro x ⟨c, hc, -⟩
      rw [hrows] at hc
      exact absurd hc List.not_mem_nil
    simp only [hnil, if_true, hnone, if_false]
    exact ⟨h, fun _ => trivial⟩
  · simp only [hnil, if_false]
    rw [← hrows]
    obtain ⟨hfollows, hlinks, hdevices⟩ := setPriorities_follows r.prune.modify wifiPriorityBase nm
      ((unpinnedRows (loadPinned r.pinned) ssid (savedWifiConnections toInt
        (if r.prune.saved then some nm.showSaved else none))).take wifiHistoryKeep.toNat)
    obtain ⟨hsound, hdeleted⟩ := deleteRows_spec r.prune.delete (hfollows.sound h) (prunedRows toInt r nm ssid)
    refine ⟨hsound, fun x => (hdeleted x).trans ?_⟩
    have hactive : ∀ after : Nm, after.devices = nm.devices → after.activeOf x = nm.activeOf x := by
      intro after hsame
      unfold Nm.activeOf Nm.device?
      rw [hsame]
    rw [hactive _ hdevices, hlinks]
    exact if_congr Iff.rfl rfl rfl

/-- The profile with its UUID: the one that is saved, if there is one. -/
def Nm.savedAs (nm : Nm) (p : Profile) : Profile := (nm.profiles.find? fun q => q.uuid = p.uuid).getD p

/-- The other connected devices, when a profile has come up on a device. -/
def Nm.others (nm : Nm) (device uuid : PyStr) : PyStr → Option Bool := fun x =>
  if x = device ∨ nm.activeOf x = some uuid then none else nm.links x

theorem mem_save (nm : Nm) (profile : Profile) :
    nm.savedAs profile ∈ (nm.save profile).profiles ∧ (nm.savedAs profile).uuid = profile.uuid := by
  unfold Nm.savedAs Nm.save
  cases hfind : nm.profiles.find? fun q => q.uuid = profile.uuid with
  | none =>
    have hnone : (nm.profiles.any fun q => q.uuid = profile.uuid) = false := by
      rw [List.any_eq_false]
      exact List.find?_eq_none.mp hfind
    rw [hnone, if_neg (by decide)]
    exact ⟨List.mem_append_right _ List.mem_cons_self, rfl⟩
  | some q =>
    obtain ⟨hq, huuid⟩ := mem_of_find?_key hfind
    rw [if_pos (List.any_eq_true.mpr ⟨q, hq, decide_eq_true huuid⟩)]
    exact ⟨hq, huuid⟩

theorem Nm.Sound.save (h : nm.Sound) (profile : Profile) : (nm.save profile).Sound := by
  unfold Nm.save
  split
  next => exact h
  next hnew =>
    refine ⟨h.names, ?_, h.actives, h.fields⟩
    show ((nm.profiles ++ [profile]).map (·.uuid)).Nodup
    rw [List.map_append, List.map_singleton, List.nodup_append]
    refine ⟨h.uuids, List.nodup_singleton _, ?_⟩
    rintro uuid huuid uuid' huuid' rfl
    obtain ⟨q, hq, rfl⟩ := List.mem_map.mp huuid
    rw [List.mem_singleton] at huuid'
    exact hnew (List.any_eq_true.mpr ⟨q, hq, decide_eq_true huuid'⟩)

theorem link_save (hactive : d.active ≠ some profile.uuid) : (nm.save profile).link d = nm.link d := by
  have hsame : (nm.save profile).activeProfile d = nm.activeProfile d := by
    unfold Nm.save
    split
    next => rfl
    next =>
      unfold Nm.activeProfile
      cases hd : d.active with
      | none => rfl
      | some v =>
        have hne : ¬ profile.uuid = v := by
          rintro rfl
          exact hactive hd
        rw [Option.bind_some, Option.bind_some, List.find?_append]
        simp [hne]
  unfold Nm.link
  rw [hsame]

theorem Nm.Sound.activate (h : nm.Sound) (device uuid : PyStr) : (nm.activate device uuid).Sound where
  names := by
    have hsame : (nm.activate device uuid).devices.map (·.name) = nm.devices.map (·.name) := by
      show (nm.devices.map _).map _ = _
      rw [List.map_map]
      refine List.map_congr_left fun d _ => ?_
      show (if d.name = device then { d with state := lit "connected", active := some uuid }
        else if d.active = some uuid then Device.down d else d).name = d.name
      split
      next => rfl
      next => split <;> rfl
    rw [hsame]
    exact h.names
  uuids := h.uuids
  actives := by
    have hkept : ∀ d : Device, ∀ v, (if d.name = device then
          { d with state := lit "connected", active := some uuid }
        else if d.active = some uuid then Device.down d else d).active = some v →
        d.name = device ∧ v = uuid ∨ d.name ≠ device ∧ v ≠ uuid ∧ d.active = some v := by
      intro d v hv
      split at hv
      next hname => exact .inl ⟨hname, (Option.some.inj hv).symm⟩
      next hname =>
        split at hv
        next => cases hv
        next hactive => exact .inr ⟨hname, fun heq => hactive (heq ▸ hv), hv⟩
    intro d hd d' hd' v hactive hactive'
    obtain ⟨a, ha, rfl⟩ := List.mem_map.mp hd
    obtain ⟨a', ha', rfl⟩ := List.mem_map.mp hd'
    rcases hkept a v hactive with ⟨hname, hv⟩ | ⟨-, hv, hsome⟩
    · rcases hkept a' v hactive' with ⟨hname', -⟩ | ⟨-, hv', -⟩
      · rw [List.inj_on_of_nodup_map h.names ha ha' (hname.trans hname'.symm)]
      · exact absurd hv hv'
    · rcases hkept a' v hactive' with ⟨-, hv'⟩ | ⟨-, -, hsome'⟩
      · exact absurd hv' hv
      · rw [h.actives a ha a' ha' v hsome hsome']
  fields := fun d hd => by
    obtain ⟨a, ha, rfl⟩ := List.mem_map.mp hd
    obtain ⟨hname, htype, hstate⟩ := h.fields a ha
    split
    next => exact ⟨hname, htype, Nm.oneLine_connected⟩
    next =>
      split
      next => exact ⟨hname, htype, Nm.oneLine_disconnected⟩
      next => exact ⟨hname, htype, hstate⟩

/-- **A device comes up with a profile.** -/
theorem joined_spec (h : nm.Sound) (hd : d ∈ nm.devices) (hwifi : d.isWifi = true) (profile : Profile) :
    (nm.move (.joined d.name profile)).Sound ∧ ∀ x, (nm.move (.joined d.name profile)).links x =
      if x = d.name then some !(nm.savedAs profile).neverDefault else nm.others d.name profile.uuid x := by
  obtain ⟨hp, huuid⟩ := mem_save nm profile
  have hdevices : (nm.save profile).devices = nm.devices := by
    unfold Nm.save
    split <;> rfl
  have hactive : ∀ x, (nm.save profile).activeOf x = nm.activeOf x := by
    intro x
    unfold Nm.activeOf Nm.device?
    rw [hdevices]
  have hsaved := h.save profile
  have hlinks := Nm.links_activate hsaved (hdevices ▸ hd) hwifi hp
  rw [huuid] at hlinks
  refine ⟨hsaved.activate d.name profile.uuid, fun x => ?_⟩
  show ((nm.save profile).activate d.name profile.uuid).links x = _
  rw [hlinks]
  show (if x = d.name then some !(nm.savedAs profile).neverDefault
    else if (nm.save profile).activeOf x = some profile.uuid then none else (nm.save profile).links x) = _
  unfold Nm.others
  rw [hactive]
  by_cases hx : x = d.name
  · rw [if_pos hx, if_pos hx]
  · rw [if_neg hx, if_neg hx]
    by_cases hsame : nm.activeOf x = some profile.uuid
    · rw [if_pos hsame, if_pos (.inr hsame)]
    · rw [if_neg hsame, if_neg fun hor => hor.elim hx hsame]
      unfold Nm.links Nm.device?
      rw [hdevices]
      cases hfind : nm.device? x with
      | none =>
        unfold Nm.device? at hfind
        rw [hfind]
        rfl
      | some d' =>
        have hne : d'.active ≠ some profile.uuid := by
          rw [Nm.activeOf_of_device? hfind] at hsame
          exact hsame
        unfold Nm.device? at hfind
        rw [hfind]
        exact link_save hne

/-- The device that has come up goes down again, or its profile or that of another is deleted. -/
def ConnectReplies.Downs (toInt : PyStr → Option Int) (r : ConnectReplies) (nm : Nm) (ssid : PyStr)
    (iface : Option PyStr) (device x : PyStr) : Prop :=
  Prunes toInt r nm ssid x ∨ x = device ∧ iface.isSome = true ∧ r.flag.dropped = true

/-- The profile has the default route just if no other connected device has it. -/
def Fits (nm : Nm) (device : PyStr) (profile : Profile) : Prop :=
  (nm.savedAs profile).neverDefault = false ↔ ∀ x, nm.others device profile.uuid x ≠ some true

/-- The flag that is set is right, or the one that is there; and whose profile is deleted does not leave
others behind without the default route. -/
structure ConnectReplies.KeptJoined (toInt : PyStr → Option Int) (r : ConnectReplies) (nm : Nm)
    (ssid : PyStr) (iface : Option PyStr) (device : PyStr) (profile : Profile) : Prop where
  legible : iface.isSome = true → (nm.move (.joined device profile)).Legible
  fits : ¬ r.Downs toInt (nm.move (.joined device profile)) ssid iface device device →
    if iface.isSome = true ∧ r.flag.set = true then
      (r.reads.status = true ∧ ∃ x, r.reads.Sees (nm.others device profile.uuid) x)
        ↔ ∃ x, nm.others device profile.uuid x = some true
    else Fits nm device profile
  spared : ∀ x, Heir (nm.others device profile.uuid) device x →
    r.Downs toInt (nm.move (.joined device profile)) ssid iface device x →
    ∀ y, y = device ∨ nm.others device profile.uuid y ≠ none →
      r.Downs toInt (nm.move (.joined device profile)) ssid iface device y

/-- What `dev wifi connect` has done is made up for. -/
def ConnectReplies.Kept (toInt : PyStr → Option Int) (r : ConnectReplies) (nm : Nm) (ssid : PyStr)
    (password iface : Option PyStr) : Prop :=
  beforeConnect r ssid password iface = .ok () →
    match r.move with
    | .nothing => True
    | .dropped device => MayLeave nm.links device
    | .joined device profile =>
      if r.connect = .done then r.KeptJoined toInt nm ssid iface device profile
      else Fits nm device profile

/-- `dev wifi connect` brings up a Wi-Fi device, the one that is named. -/
structure ConnectReplies.Documented (r : ConnectReplies) (nm : Nm) (iface : Option PyStr) : Prop where
  joins : r.connect = .done →
    ∃ device profile, r.move = .joined device profile ∧ ∀ i, iface = some i → i = device
  wifi : ∀ device profile, r.move = .joined device profile →
    ∃ d ∈ nm.devices, d.name = device ∧ d.isWifi = true

theorem others_self (nm : Nm) (device uuid : PyStr) : nm.others device uuid device = none := if_pos (.inl rfl)

theorem others_unique (hsingle : Single nm.links) (device uuid : PyStr) (a b : PyStr)
    (ha : nm.others device uuid a = some true) (hb : nm.others device uuid b = some true) : a = b := by
  unfold Nm.others at ha hb
  split at ha
  next => cases ha
  next =>
    split at hb
    next => cases hb
    next => exact hsingle.unique a b ha hb

/-- A command that has failed, or run into the timeout. -/
theorem move_single {r : ConnectReplies} {ssid : PyStr} {password iface : Option PyStr} (h : nm.Sound)
    (hsingle : Single nm.links) (hdoc : r.Documented nm iface) (hkept : r.Kept toInt nm ssid password iface)
    (hbefore : beforeConnect r ssid password iface = .ok ()) (hend : r.connect ≠ .done) :
    (nm.move r.move).Sound ∧ Single (nm.move r.move).links := by
  have hmove := hkept hbefore
  have hwifi := hdoc.wifi
  generalize r.move = move at hmove hwifi
  cases move with
  | nothing => exact ⟨h, hsingle⟩
  | dropped device =>
    show (nm.disconnect device).Sound ∧ Single (nm.disconnect device).links
    rw [Nm.links_disconnect]
    exact ⟨(Nm.follows_disconnect nm device).sound h, hsingle.leave hmove⟩
  | joined device profile =>
    simp only [hend, if_false, Fits] at hmove
    obtain ⟨d, hd, rfl, hdwifi⟩ := hwifi device profile rfl
    obtain ⟨hsound, hlinks⟩ := joined_spec h hd hdwifi profile
    refine ⟨hsound, @Single.join _ (nm.others d.name profile.uuid) _ d.name (fun _ => False)
      (others_unique hsingle _ _) (others_self _ _ _) (fun _ => False.elim) (fun x hx _ => ?_) (fun _ => ?_)
      fun _ _ => False.elim⟩
    · exact (hlinks x).trans (if_neg hx)
    · refine ⟨_, (hlinks d.name).trans (if_pos rfl), ?_⟩
      rw [Bool.not_eq_true', hmove]

/-- What `connect` does about the default route. -/
theorem routeConnected_spec {r : ConnectReplies} {device : PyStr} {iface : Option PyStr} {b : Bool}
    (h : nm.Sound) (hlegible : iface.isSome = true → nm.Legible) (hlink : nm.links device = some b)
    (hiface : ∀ i, iface = some i → i = device) : nm.Follows (routeConnected r nm iface)
      ∧ (routeConnected r nm iface).links = Function.update nm.links device
        (if iface.isSome = true then r.flag.leaves b (hasOtherPrimary r.reads nm device) else some b) := by
  cases iface with
  | none =>
    refine ⟨.refl nm, ?_⟩
    show nm.links = Function.update nm.links device (some b)
    rw [← hlink, Function.update_eq_self]
  | some i =>
    cases hiface i rfl
    obtain ⟨-, hfollows, hlinks⟩ := setDeviceNeverDefault_spec h (hlegible rfl) hlink r.flag
      (hasOtherPrimary r.reads nm device)
    exact ⟨hfollows, hlinks⟩

/-- The links when `connect` has taken a device up and is done. -/
theorem joined_single {r : ConnectReplies} {ssid : PyStr} {iface : Option PyStr} (h : nm.Sound)
    (hsingle : Single nm.links) (hd : d ∈ nm.devices) (hwifi : d.isWifi = true)
    (hiface : ∀ i, iface = some i → i = d.name) (hkept : r.KeptJoined toInt nm ssid iface d.name profile)
    {after : Nm} (hafter : (promoteAndPruneWifi toInt r.prune
      (routeConnected r (nm.move (.joined d.name profile)) iface) r.pinned ssid wifiHistoryKeep).1 = after) :
    after.Sound ∧ Single after.links := by
  obtain ⟨hsound, hlinks⟩ := joined_spec h hd hwifi profile
  obtain ⟨hlegible, hfits, hspared⟩ := hkept
  generalize nm.move (.joined d.name profile) = nm₁ at *
  have hself : nm₁.links d.name = some !(nm.savedAs profile).neverDefault := (hlinks d.name).trans (if_pos rfl)
  have hothers : ∀ x, x ≠ d.name → nm₁.links x = nm.others d.name profile.uuid x :=
    fun x hx => (hlinks x).trans (if_neg hx)
  obtain ⟨hfollows, hroute⟩ := routeConnected_spec (r := r) hsound hlegible hself hiface
  generalize routeConnected r nm₁ iface = nm₂ at hafter hfollows hroute
  obtain ⟨hsound', hpruned⟩ := @promote_spec toInt _ (hfollows.sound hsound) r ssid
  rw [hafter] at hsound' hpruned
  refine ⟨hsound', ?_⟩
  -- a profile that is deleted is active as it was before its flag was set, or not at all
  have hsame : ∀ x, nm₂.links x ≠ none → (Prunes toInt r nm₂ ssid x ↔ Prunes toInt r nm₁ ssid x) := by
    intro x hx
    have hactive : nm₂.activeOf x = nm₁.activeOf x :=
      (hfollows.activeOf x).resolve_left (Nm.activeOf_of_links hx)
    unfold Prunes prunedRows
    rw [hfollows.showSaved, hactive]
  have hfinal : ∀ x, after.links x = if Prunes toInt r nm₁ ssid x then none else nm₂.links x := by
    intro x
    rw [hpruned]
    cases hx : nm₂.links x with
    | none => rw [ite_self, ite_self]
    | some b => exact if_congr (hsame x (by rw [hx]; exact Option.some_ne_none b)) rfl rfl
  refine @Single.join _ (nm.others d.name profile.uuid) _ d.name (r.Downs toInt nm₁ ssid iface d.name)
    (others_unique hsingle _ _) (others_self _ _ _) (fun x hdown => ?_) (fun x hx hdown => ?_) (fun hdown => ?_)
    hspared
  · rw [hfinal]
    rcases hdown with hprunes | ⟨rfl, hgiven, hdropped⟩
    · exact if_pos hprunes
    · rw [hroute, Function.update_self, if_pos hgiven, FlagReplies.leaves, if_pos hdropped, ite_self]
  · rw [hfinal, if_neg fun hprunes => hdown (.inl hprunes), hroute, Function.update_of_ne hx, hothers x hx]
  · have hkind := hfits hdown
    have hnever : (!(nm.savedAs profile).neverDefault) = true ↔ (nm.savedAs profile).neverDefault = false :=
      Bool.not_eq_true' _ ▸ Iff.rfl
    rw [hfinal, if_neg fun hprunes => hdown (.inl hprunes), hroute, Function.update_self]
    cases hgiven : iface.isSome with
    | false =>
      rw [if_neg fun hboth => absurd (hgiven.symm.trans hboth.1) (by decide)] at hkind
      exact ⟨_, if_neg (by decide), hnever.trans hkind⟩
    | true =>
      have hdropped : r.flag.dropped ≠ true := fun hdropped => hdown (.inr ⟨rfl, hgiven, hdropped⟩)
      rw [if_pos rfl, FlagReplies.leaves, if_neg hdropped]
      by_cases hset : r.flag.set = true
      · rw [if_pos ⟨hgiven, hset⟩] at hkind
        refine ⟨_, if_pos hset, ?_⟩
        have hsees : ∀ x, x ≠ d.name → (r.reads.Sees nm₁.links x ↔ r.reads.Sees (nm.others d.name profile.uuid) x) := by
          intro x hx
          unfold RouteReads.Sees
          rw [hothers x hx]
        have hfound : hasOtherPrimary r.reads nm₁ d.name = true
            ↔ ∃ x, nm.others d.name profile.uuid x = some true := by
          rw [hasOtherPrimary_iff hsound (hlegible hgiven), ← hkind]
          refine and_congr_right fun _ => exists_congr fun x => ?_
          by_cases hx : x = d.name
          · -- the device itself is not among the others
            have hnot : ¬ r.reads.Sees (nm.others d.name profile.uuid) x := by
              unfold RouteReads.Sees
              rw [hx, others_self]
              rintro ⟨-, hlink | ⟨hlink, -⟩⟩ <;> cases hlink
            exact iff_of_false (fun hboth => hboth.1 hx) hnot
          · rw [hsees x hx]
            exact and_iff_right hx
        rw [Bool.not_eq_true', ← Bool.not_eq_true, hfound, not_exists]
      · rw [if_neg fun hboth => hset hboth.2] at hkind
        exact ⟨_, if_neg hset, hnever.trans hkind⟩

/-- A call keeps the law. -/
theorem connect_single {r : ConnectReplies} {ssid : PyStr} {password iface : Option PyStr} (h : nm.Sound)
    (hsingle : Single nm.links) (hdoc : r.Documented nm iface) (hkept : r.Kept toInt nm ssid password iface) :
    (connect toInt r nm ssid password iface).1.Sound
      ∧ Single (connect toInt r nm ssid password iface).1.links := by
  unfold connect
  cases hbefore : beforeConnect r ssid password iface with
  | error e => exact ⟨h, hsingle⟩
  | ok u =>
    cases hend : r.connect with
    | failed stderr => exact move_single h hsingle hdoc hkept hbefore (by rw [hend]; exact Outcome.noConfusion)
    | raised exc => exact move_single h hsingle hdoc hkept hbefore (by rw [hend]; exact Outcome.noConfusion)
    | done =>
      obtain ⟨device, profile, hmove, hiface⟩ := hdoc.joins hend
      obtain ⟨d, hd, rfl, hwifi⟩ := hdoc.wifi device profile hmove
      have hjoined := hkept hbefore
      rw [hmove] at hjoined ⊢
      simp only [hend, if_true] at hjoined
      exact joined_single h hsingle hd hwifi hiface hjoined rfl

end Connect

/-! ## Runs -/

section Runs

variable {toInt : PyStr → Option Int} {nm : Nm}

/-- What is documented of `nmcli`. -/
def UplinkCall.Documented (nm : Nm) : UplinkCall → Prop
  | .connect r _ _ iface => r.Documented nm iface
  | _ => True

/-- The call leaves one device with the default route. -/
def UplinkCall.Kept (toInt : PyStr → Option Int) (nm : Nm) : UplinkCall → Prop
  | .connect r ssid password iface => r.Kept toInt nm ssid password iface
  | .setPrimary r iface => r.Kept nm iface
  | .disconnect r iface => r.Kept nm iface

/-- After each call that is ok, exactly one connected Wi-Fi device has the default route, if there is
one; after `set_primary` it is the one that was named. -/
structure OneDefaultRoute (toInt : PyStr → Option Int) (nm : Nm) (calls : List UplinkCall) : Prop where
  single : ∀ i call, calls[i]? = some call →
    (call.run toInt (stateAt (uplinkStep toInt) nm calls i)).2 = true →
      Single (stateAt (uplinkStep toInt) nm calls (i + 1)).links
  primary : ∀ i r iface, calls[i]? = some (.setPrimary r iface) →
    (UplinkCall.run toInt (stateAt (uplinkStep toInt) nm calls i) (.setPrimary r iface)).2 = true →
      ∀ x, (stateAt (uplinkStep toInt) nm calls (i + 1)).links x ≠ none →
        (stateAt (uplinkStep toInt) nm calls (i + 1)).links iface = some true

/-- One call. -/
theorem uplinkStep_single {call : UplinkCall} (h : nm.Sound ∧ Single nm.links)
    (hdoc : call.Documented nm) (hkept : call.Kept toInt nm) :
    (uplinkStep toInt nm call).Sound ∧ Single (uplinkStep toInt nm call).links := by
  cases call with
  | connect r ssid password iface => exact connect_single h.1 h.2 hdoc hkept
  | setPrimary r iface =>
    obtain ⟨hsound, hsingle, -⟩ := setPrimary_single h.1 h.2 hkept
    exact ⟨hsound, hsingle⟩
  | disconnect r iface => exact disconnect_single h.1 h.2 hkept

/-- **One default route**, in a run of calls that each leave one. -/
theorem one_default_route {calls : List UplinkCall} (hsound : nm.Sound) (hsingle : Single nm.links)
    (hdoc : Along (uplinkStep toInt) UplinkCall.Documented nm calls)
    (hkept : Along (uplinkStep toInt) (UplinkCall.Kept toInt) nm calls) :
    OneDefaultRoute toInt nm calls := by
  have hat : ∀ i, (stateAt (uplinkStep toInt) nm calls i).Sound
      ∧ Single (stateAt (uplinkStep toInt) nm calls i).links :=
    stateAt_inv (p := fun nm : Nm => nm.Sound ∧ Single nm.links) ⟨hsound, hsingle⟩ fun i call hcall h =>
      uplinkStep_single h (hdoc.at i call hcall) (hkept.at i call hcall)
  refine ⟨fun i _ _ _ => (hat (i + 1)).2, fun i r iface hcall hok x hx => ?_⟩
  have hcase := hkept.at i _ hcall
  rw [stateAt_succ hcall] at hx ⊢
  exact (setPrimary_single (hat i).1 (hat i).2 hcase).2.2 hok x hx

/-- Two Wi-Fi devices, and nothing connected. -/
def twoCards : Nm where
  devices := [⟨lit "wlan0", lit "wifi", lit "disconnected", none⟩, ⟨lit "wlan1", lit "wifi", lit "disconnected", none⟩]
  profiles := []

/-- A network is joined that was not saved. -/
def joinNew (device uuid name : String) (iface : Option String) : UplinkCall :=
  .connect { move := .joined (lit device) ⟨lit uuid, lit name, lit "802-11-wireless", lit "1", true, 0, false⟩ }
    (lit name) none (iface.map lit)

theorem twoCards_links (x : PyStr) : twoCards.links x = none := by
  cases hx : twoCards.links x with
  | none => rfl
  | some b =>
    obtain ⟨d, hd, hlink⟩ := Option.bind_eq_some_iff.mp hx
    have hnone : ∀ d ∈ twoCards.devices, twoCards.link d = none := by decide
    rw [hnone d (mem_of_find?_key hd).1] at hlink
    cases hlink

theorem twoCards_sound : twoCards.Sound where
  names := by decide
  uuids := by decide
  actives := fun d hd d' _ uuid hactive _ => by
    have hnone : ∀ d ∈ twoCards.devices, d.active = none := by decide
    rw [hnone d hd] at hactive
    cases hactive
  fields := by decide

/-- One card is joined, made the uplink, and taken down. -/
def steadyUplink : List UplinkCall :=
  [joinNew "wlan0" "u0" "home" (some "wlan0"), .setPrimary {} (lit "wlan0"), .disconnect {} (some (lit "wlan0"))]

/-- Only the first card is connected. -/
theorem links_only {nm : Nm} (honly : ∀ d ∈ nm.devices, d.name ≠ lit "wlan0" → nm.link d = none) {x : PyStr}
    (hx : x ≠ lit "wlan0") : nm.links x = none := by
  cases hlink : nm.links x with
  | none => rfl
  | some b =>
    obtain ⟨d, hd, hdlink⟩ := Option.bind_eq_some_iff.mp hlink
    obtain ⟨hmem, rfl⟩ := mem_of_find?_key hd
    rw [honly d hmem hx] at hdlink
    cases hdlink

theorem joinHome_kept : (joinNew "wlan0" "u0" "home" (some "wlan0")).Kept (fun _ => none) twoCards := by
  intro _
  have hothers : ∀ x, twoCards.others (lit "wlan0") (lit "u0") x = none := by
    intro x
    unfold Nm.others
    rw [twoCards_links, ite_self]
  refine ⟨fun _ => by decide +kernel, fun _ => ?_, fun x _ hdown => ?_⟩
  · refine iff_of_false ?_ ?_
    · rintro ⟨-, x, -, hlink | ⟨hlink, -⟩⟩
      · exact absurd ((hothers x).symm.trans hlink) (by decide)
      · exact absurd ((hothers x).symm.trans hlink) (by decide)
    · rintro ⟨x, hlink⟩
      exact absurd ((hothers x).symm.trans hlink) (by decide)
  · rcases hdown with ⟨c, hc, -⟩ | ⟨-, -, hdropped⟩
    · have hnone : ∀ c ∈ prunedRows (fun _ => none) { move := .nothing } (twoCards.move (.joined (lit "wlan0")
          ⟨lit "u0", lit "home", lit "802-11-wireless", lit "1", true, 0, false⟩)) (lit "home"), False := by
        decide +kernel
      exact (hnone c hc).elim
    · cases hdropped

theorem one_default_route_steady : OneDefaultRoute (fun _ => none) twoCards steadyUplink := by
  refine one_default_route twoCards_sound (.of_nobody twoCards_links) ?_ ⟨joinHome_kept, ?_, ?_, trivial⟩
  · refine ⟨⟨fun _ => ⟨_, _, rfl, fun i hi => ?_⟩, fun device profile hmove => ?_⟩, trivial, trivial, trivial⟩
    · cases hi
      rfl
    · cases hmove
      decide
  · refine fun _ _ _ => ⟨by decide +kernel, fun b _ _ => ⟨fun x hx hlink => ?_, fun hdropped => ?_⟩⟩
    · rw [links_only (by decide +kernel) hx] at hlink
      cases hlink
    · cases hdropped
  · intro _ _ dev hdev
    cases hdev
    exact fun _ x hx => links_only (by decide +kernel) hx

/-- Two cards are joined, and the uplink is disconnected. -/
def lostUplink : List UplinkCall :=
  [joinNew "wlan0" "u0" "home" (some "wlan0"), joinNew "wlan1" "u1" "hall" (some "wlan1"),
    .disconnect {} (some (lit "wlan0"))]

/-- **The default route is lost.** The uplink is disconnected, and the card that is left is not given the
default route; and two cards that are joined without an interface both have it. -/
theorem default_route_lost :
    (twoCards.Sound ∧ Single twoCards.links
      ∧ Along (uplinkStep fun _ => none) UplinkCall.Documented twoCards lostUplink)
      ∧ ¬ OneDefaultRoute (fun _ => none) twoCards lostUplink
      ∧ ¬ OneDefaultRoute (fun _ => none) twoCards
        [joinNew "wlan0" "u0" "home" none, joinNew "wlan1" "u1" "hall" none] := by
  refine ⟨⟨twoCards_sound, .of_nobody twoCards_links, ⟨fun _ => ⟨_, _, rfl, fun i hi => ?_⟩,
    fun device profile hmove => ?_⟩, ⟨fun _ => ⟨_, _, rfl, fun i hi => ?_⟩, fun device profile hmove => ?_⟩,
    trivial, trivial⟩, fun h => ?_, fun h => ?_⟩
  · cases hi
    rfl
  · cases hmove
    decide +kernel
  · cases hi
    rfl
  · cases hmove
    decide +kernel
  · obtain ⟨x, hx⟩ := (h.single 2 _ rfl (by decide +kernel)).owned (lit "wlan1") false (by decide +kernel)
    obtain ⟨d, hd, hlink⟩ := Option.bind_eq_some_iff.mp hx
    have hnone : ∀ d ∈ (stateAt (uplinkStep fun _ => none) twoCards lostUplink 3).devices,
        (stateAt (uplinkStep fun _ => none) twoCards lostUplink 3).link d ≠ some true := by decide +kernel
    exact hnone d (mem_of_find?_key hd).1 hlink
  · have hsame := (h.single 1 _ rfl (by decide +kernel)).unique (lit "wlan0") (lit "wlan1") (by decide +kernel)
      (by decide +kernel)
    revert hsame
    decide

end Runs

end EdgeSensor.Console
