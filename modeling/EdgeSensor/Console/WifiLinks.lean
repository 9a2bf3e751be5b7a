import EdgeSensor.Console.WifiUplink
import EdgeSensor.Lib.KeyedList
import EdgeSensor.Lib.SingleOwner

/-!
# The links of the Wi-Fi devices

What NetworkManager's state comes to for the default route: which Wi-Fi devices are connected, and
which of them carry it (`Nm.links`). Each command of `nmcli` is one change of the links, and what
`wifi_service.py` reads is the links, where the names of the active profiles can be read back
(`Nm.Legible`).
-/

namespace EdgeSensor.Console

open EdgeSensor.Lib EdgeSensor.Py

/-- `wifi` -/
def Device.isWifi (d : Device) : Bool := d.type = lit "wifi"

namespace Nm

/-- The device with this name. -/
def device? (nm : Nm) (name : PyStr) : Option Device := nm.devices.find? fun d => d.name = name

/-- Of a connected Wi-Fi device: whether its active profile carries the default route. -/
def link (nm : Nm) (d : Device) : Option Bool :=
  if d.isWifi && isConnectedState d.state then (nm.activeProfile d).map fun p => !p.neverDefault
  else none

/-- The connected Wi-Fi devices, by their names. -/
def links (nm : Nm) (name : PyStr) : Option Bool := (nm.device? name).bind nm.link

/-- The UUID of the profile that is active on the device with this name. -/
def activeOf (nm : Nm) (name : PyStr) : Option PyStr := (nm.device? name).bind (·.active)

/-- What NetworkManager sees to: names and UUIDs are distinct, no profile is active twice, and what
it makes up itself is on one line. -/
structure Sound (nm : Nm) : Prop where
  names : (nm.devices.map (·.name)).Nodup
  uuids : (nm.profiles.map (·.uuid)).Nodup
  actives : ∀ d ∈ nm.devices, ∀ d' ∈ nm.devices, ∀ uuid, d.active = some uuid → d'.active = some uuid → d = d'
  fields : ∀ d ∈ nm.devices, OneLine d.name ∧ OneLine d.type ∧ OneLine d.state

/-- The name of this profile is read as it is, and a command takes this profile by it. -/
def ReadsName (nm : Nm) (p : Profile) : Prop :=
  OneLine p.name ∧ p.name ≠ [] ∧ p.name ≠ lit "--" ∧ (nm.named p.name).map (·.uuid) = some p.uuid

/-- The names of the profiles that are active on connected Wi-Fi devices can be read. -/
def Legible (nm : Nm) : Prop :=
  ∀ d ∈ nm.devices, (nm.link d).isSome = true → ∀ p ∈ nm.activeProfile d, nm.ReadsName p

instance (nm : Nm) (p : Profile) : Decidable (nm.ReadsName p) :=
  inferInstanceAs (Decidable (OneLine p.name ∧ _))

instance (nm : Nm) : Decidable nm.Legible :=
  inferInstanceAs (Decidable (∀ d ∈ nm.devices, (nm.link d).isSome = true → _))

variable {nm nm' : Nm} {d : Device} {p : Profile} {x uuid : PyStr}

theorem device?_eq_some (h : nm.Sound) : nm.device? x = some d ↔ d ∈ nm.devices ∧ d.name = x :=
  find?_key_iff h.names

theorem links_eq_some {b : Bool} (h : nm.Sound) :
    nm.links x = some b ↔ ∃ d ∈ nm.devices, d.name = x ∧ nm.link d = some b := by
  unfold links
  rw [Option.bind_eq_some_iff]
  constructor
  · rintro ⟨d, hd, hlink⟩
    obtain ⟨hmem, hname⟩ := (device?_eq_some h).mp hd
    exact ⟨d, hmem, hname, hlink⟩
  · rintro ⟨d, hmem, hname, hlink⟩
    exact ⟨d, (device?_eq_some h).mpr ⟨hmem, hname⟩, hlink⟩

theorem links_of_mem (h : nm.Sound) (hd : d ∈ nm.devices) : nm.links d.name = nm.link d := by
  unfold links
  rw [(device?_eq_some h).mpr ⟨hd, rfl⟩, Option.bind_some]

theorem activeOf_of_mem (h : nm.Sound) (hd : d ∈ nm.devices) : nm.activeOf d.name = d.active := by
  unfold activeOf
  rw [(device?_eq_some h).mpr ⟨hd, rfl⟩, Option.bind_some]

theorem link_eq_some {b : Bool} : nm.link d = some b ↔ d.isWifi = true ∧ isConnectedState d.state = true
    ∧ ∃ p, nm.activeProfile d = some p ∧ b = !p.neverDefault := by
  unfold link
  rw [Option.ite_none_right_eq_some, Bool.and_eq_true, Option.map_eq_some_iff, and_assoc]
  simp only [eq_comm]

theorem activeProfile_eq_some (h : nm.activeProfile d = some p) : d.active = some p.uuid ∧ p ∈ nm.profiles := by
  unfold activeProfile at h
  obtain ⟨uuid, hactive, hfind⟩ := Option.bind_eq_some_iff.mp h
  obtain ⟨hmem, rfl⟩ := mem_of_find?_key hfind
  exact ⟨hactive, hmem⟩

/-- A device that is connected has a profile. -/
theorem activeOf_of_links (h : nm.links x ≠ none) : nm.activeOf x ≠ none := by
  obtain ⟨b, hb⟩ := Option.ne_none_iff_exists'.mp h
  obtain ⟨d, hd, hlink⟩ := Option.bind_eq_some_iff.mp hb
  obtain ⟨-, -, p, hp, -⟩ := link_eq_some.mp hlink
  unfold activeOf
  rw [hd, Option.bind_some, (activeProfile_eq_some hp).1]
  exact Option.some_ne_none _

/-! ## What the commands do to the links -/

section Commands

theorem device?_of_map {f : Device → Device} (hdevices : nm'.devices = nm.devices.map f)
    (hname : ∀ d ∈ nm.devices, (f d).name = d.name) (x : PyStr) : nm'.device? x = (nm.device? x).map f := by
  unfold device?
  rw [hdevices]
  exact find?_key_map hname

/-- The links after a command that changes the devices one by one. -/
theorem links_of_map {f : Device → Device} (hdevices : nm'.devices = nm.devices.map f)
    (hname : ∀ d ∈ nm.devices, (f d).name = d.name) {u : PyStr → Option Bool}
    (hlink : ∀ d ∈ nm.devices, nm.device? d.name = some d → nm'.link (f d) = u d.name)
    (hnone : ∀ x, nm.device? x = none → u x = none) : nm'.links = u := by
  funext x
  unfold links
  rw [device?_of_map hdevices hname]
  cases hd : nm.device? x with
  | none => exact (hnone x hd).symm
  | some d =>
    obtain ⟨hmem, rfl⟩ := mem_of_find?_key hd
    exact hlink d hmem hd

theorem links_of_device?_none (h : nm.device? x = none) : nm.links x = none := by
  unfold links
  rw [h, Option.bind_none]

theorem links_of_device? (h : nm.device? x = some d) : nm.links x = nm.link d := by
  unfold links
  rw [h, Option.bind_some]

theorem activeOf_of_device? (h : nm.device? x = some d) : nm.activeOf x = d.active := by
  unfold activeOf
  rw [h, Option.bind_some]

/-- Nothing is active on a device that is down. -/
theorem link_down (nm : Nm) (d : Device) : nm.link (Device.down d) = none := by
  have hnone : nm.activeProfile (Device.down d) = none := rfl
  unfold link
  rw [hnone, Option.map_none, ite_self]

theorem link_of_profiles (h : nm'.profiles = nm.profiles) (d : Device) : nm'.link d = nm.link d := by
  unfold link activeProfile
  rw [h]

/-- `dev disconnect`. -/
theorem links_disconnect (nm : Nm) (device : PyStr) :
    (nm.disconnect device).links = Function.update nm.links device none := by
  have hdevices : (nm.disconnect device).devices
      = nm.devices.map fun d => if d.name = device then Device.down d else d := rfl
  refine links_of_map hdevices (fun d _ => by split <;> rfl) (fun d _ hd => ?_) fun x hx => ?_
  · split
    next hname => rw [link_down, hname, Function.update_self]
    next hname =>
      rw [Function.update_of_ne hname, links_of_device? hd]
      exact link_of_profiles rfl d
  · rw [Function.update_apply, links_of_device?_none hx, ite_self]

/-- `connection delete`. -/
theorem links_delete (nm : Nm) (uuid : PyStr) :
    (nm.delete uuid).links = fun x => if nm.activeOf x = some uuid then none else nm.links x := by
  have hdevices : (nm.delete uuid).devices
      = nm.devices.map fun d => if d.active = some uuid then Device.down d else d := rfl
  refine links_of_map hdevices (fun d _ => by split <;> rfl) (fun d _ hd => ?_) fun x hx => ?_
  · rw [activeOf_of_device? hd]
    split
    next => rw [link_down]
    next hactive =>
      have hprofile : (nm.delete uuid).activeProfile d = nm.activeProfile d := by
        unfold activeProfile delete
        cases hd : d.active with
        | none => rfl
        | some v =>
          have hne : v ≠ uuid := fun heq => hactive (hd.trans (congrArg some heq))
          rw [Option.bind_some, Option.bind_some]
          refine (find?_key_filter_ne uuid).trans (if_neg hne)
      rw [links_of_device? hd]
      unfold link
      rw [hprofile]
  · show (if nm.activeOf x = some uuid then none else nm.links x) = none
    rw [links_of_device?_none hx, ite_self]

theorem activeOf_delete (nm : Nm) (uuid : PyStr) :
    (nm.delete uuid).activeOf x = if nm.activeOf x = some uuid then none else nm.activeOf x := by
  have hdevices : (nm.delete uuid).devices
      = nm.devices.map fun d => if d.active = some uuid then Device.down d else d := rfl
  unfold activeOf
  rw [device?_of_map hdevices fun d _ => by split <;> rfl]
  cases nm.device? x with
  | none => rfl
  | some d =>
    rw [Option.map_some, Option.bind_some, Option.bind_some]
    split <;> rfl

theorem isConnectedState_connected : isConnectedState (lit "connected") = true := by decide

/-- A profile comes up on a Wi-Fi device. -/
theorem links_activate (h : nm.Sound) (hd : d ∈ nm.devices) (hwifi : d.isWifi = true)
    (hp : p ∈ nm.profiles) : (nm.activate d.name p.uuid).links = fun x =>
      if x = d.name then some !p.neverDefault
      else if nm.activeOf x = some p.uuid then none else nm.links x := by
  have hdevices : (nm.activate d.name p.uuid).devices = nm.devices.map fun d' =>
      if d'.name = d.name then { d' with state := lit "connected", active := some p.uuid }
      else if d'.active = some p.uuid then Device.down d' else d' := rfl
  have hname : ∀ d' ∈ nm.devices, (if d'.name = d.name then
      { d' with state := lit "connected", active := some p.uuid }
      else if d'.active = some p.uuid then Device.down d' else d').name = d'.name := by
    intro d' _
    split
    next => rfl
    next => split <;> rfl
  refine links_of_map hdevices hname (fun d' hd' hfind => ?_) fun x hx => ?_
  · rw [activeOf_of_device? hfind]
    split
    next heq =>
      have hsame : d' = d := List.inj_on_of_nodup_map h.names hd' hd heq
      subst hsame
      have hprofile : (nm.activate d'.name p.uuid).activeProfile
          { d' with state := lit "connected", active := some p.uuid } = some p :=
        find?_key_of_mem h.uuids hp
      exact link_eq_some.mpr ⟨hwifi, isConnectedState_connected, p, hprofile, rfl⟩
    next =>
      split
      next => rw [link_down]
      next =>
        rw [links_of_device? hfind]
        exact link_of_profiles rfl d'
  · have hne : x ≠ d.name := by
      rintro rfl
      rw [(device?_eq_some h).mpr ⟨hd, rfl⟩] at hx
      cases hx
    rw [links_of_device?_none hx, ite_self, if_neg hne]

theorem activeProfile_modify {f : Profile → Profile} (hf : ∀ p, (f p).uuid = p.uuid) (uuid : PyStr)
    (d : Device) : (nm.modify uuid f).activeProfile d
      = (nm.activeProfile d).map fun p => if p.uuid = uuid then f p else p := by
  unfold activeProfile
  cases d.active with
  | none => rfl
  | some v =>
    refine find?_key_map fun p _ => ?_
    split
    next => exact hf p
    next => rfl

/-- A setting that is not `never-default`. -/
theorem links_modify {f : Profile → Profile} (hf : ∀ p, (f p).uuid = p.uuid)
    (hflag : ∀ p, (f p).neverDefault = p.neverDefault) (uuid : PyStr) : (nm.modify uuid f).links = nm.links := by
  have hdevices : (nm.modify uuid f).devices = nm.devices.map fun d => d := (List.map_id' _).symm
  refine links_of_map hdevices (fun _ _ => rfl) (fun d _ hd => ?_) fun x hx => links_of_device?_none hx
  have hsame : ∀ p : Profile, (!(if p.uuid = uuid then f p else p).neverDefault) = !p.neverDefault := by
    intro p
    split
    next => rw [hflag]
    next => rfl
  rw [links_of_device? hd]
  unfold link
  rw [activeProfile_modify hf, Option.map_map]
  exact congrArg (fun o => if d.isWifi && isConnectedState d.state then o else none)
    (Option.map_congr fun p _ => hsame p)

theorem link_setNeverDefault (flag : Bool) (hactive : d.active = some uuid) :
    (nm.modify uuid fun p => { p with neverDefault := flag }).link d = (nm.link d).map fun _ => !flag := by
  have hprofile := @activeProfile_modify nm (fun p => { p with neverDefault := flag }) (fun _ => rfl) uuid d
  unfold link
  rw [hprofile]
  cases hp : nm.activeProfile d with
  | none =>
    rw [Option.map_none, Option.map_none, ite_self]
    rfl
  | some p =>
    have huuid : p.uuid = uuid := by
      have hsame := (activeProfile_eq_some hp).1
      rw [hactive, Option.some.injEq] at hsame
      exact hsame.symm
    rw [Option.map_some, Option.map_some, if_pos huuid]
    split
    next => rfl
    next => rfl

theorem link_modify_of_ne {f : Profile → Profile} (hf : ∀ p, (f p).uuid = p.uuid)
    (hactive : d.active ≠ some uuid) : (nm.modify uuid f).link d = nm.link d := by
  have hprofile : (nm.modify uuid f).activeProfile d = nm.activeProfile d := by
    rw [activeProfile_modify hf]
    cases hp : nm.activeProfile d with
    | none => rfl
    | some p =>
      have hne : p.uuid ≠ uuid := by
        rintro rfl
        exact hactive (activeProfile_eq_some hp).1
      rw [Option.map_some, if_neg hne]
  unfold link
  rw [hprofile]

/-- `never-default` of the profile that is active on a device. -/
theorem links_setNeverDefault (h : nm.Sound) (hactive : nm.activeOf x = some uuid) (flag : Bool) :
    (nm.modify uuid fun p => { p with neverDefault := flag }).links
      = Function.update nm.links x ((nm.links x).map fun _ => !flag) := by
  have hdevices : (nm.modify uuid fun p => { p with neverDefault := flag }).devices
      = nm.devices.map fun d => d := (List.map_id' _).symm
  obtain ⟨d, hd, hduuid⟩ := Option.bind_eq_some_iff.mp hactive
  obtain ⟨hmem, rfl⟩ := (device?_eq_some h).mp hd
  refine links_of_map hdevices (fun _ _ => rfl) (fun d' hd' hfind => ?_) fun y hy => ?_
  · by_cases heq : d'.name = d.name
    · have hsame : d' = d := List.inj_on_of_nodup_map h.names hd' hmem heq
      rw [hsame, Function.update_self, links_of_device? hd]
      exact link_setNeverDefault flag hduuid
    · have hother : d'.active ≠ some uuid :=
        fun hsame => heq (congrArg Device.name (h.actives d' hd' d hmem uuid hsame hduuid))
      rw [Function.update_of_ne heq, links_of_device? hfind]
      exact link_modify_of_ne (fun _ => rfl) hother
  · have hne : y ≠ d.name := by
      rintro rfl
      rw [hd] at hy
      cases hy
    rw [Function.update_of_ne hne, links_of_device?_none hy]

end Commands

/-! ## States that follow -/

section Follows

/-- A device is as it was, or nothing is active on it any more. -/
structure DeviceFollows (d d' : Device) : Prop where
  name : d'.name = d.name
  type : d'.type = d.type
  state : OneLine d.state → OneLine d'.state
  active : d'.active = none ∨ d'.active = d.active ∧ isConnectedState d'.state = isConnectedState d.state

structure ProfileFollows (p p' : Profile) : Prop where
  uuid : p'.uuid = p.uuid
  name : p'.name = p.name
  type : p'.type = p.type
  timestamp : p'.timestamp = p.timestamp

/-- Some devices have gone down, and settings of profiles have changed. -/
structure Follows (nm nm' : Nm) : Prop where
  devices : ∃ f : Device → Device, nm'.devices = nm.devices.map f ∧ ∀ d ∈ nm.devices, DeviceFollows d (f d)
  profiles : ∃ g : Profile → Profile, nm'.profiles = nm.profiles.map g ∧ ∀ p ∈ nm.profiles, ProfileFollows p (g p)

theorem oneLine_disconnected : OneLine (lit "disconnected") := by decide

theorem oneLine_connected : OneLine (lit "connected") := by decide

theorem DeviceFollows.refl (d : Device) : DeviceFollows d d := ⟨rfl, rfl, id, .inr ⟨rfl, rfl⟩⟩

theorem ProfileFollows.refl (p : Profile) : ProfileFollows p p := ⟨rfl, rfl, rfl, rfl⟩

theorem DeviceFollows.down (d : Device) : DeviceFollows d (Device.down d) :=
  ⟨rfl, rfl, fun _ => oneLine_disconnected, .inl rfl⟩

theorem DeviceFollows.trans {d d' d'' : Device} (h : DeviceFollows d d') (h' : DeviceFollows d' d'') :
    DeviceFollows d d'' where
  name := h'.name.trans h.name
  type := h'.type.trans h.type
  state := fun hone => h'.state (h.state hone)
  active := by
    rcases h'.active with hnone | ⟨hsame, hstate⟩
    · exact .inl hnone
    · rcases h.active with hnone | ⟨hsame', hstate'⟩
      · exact .inl (hsame.trans hnone)
      · exact .inr ⟨hsame.trans hsame', hstate.trans hstate'⟩

theorem ProfileFollows.trans {p p' p'' : Profile} (h : ProfileFollows p p') (h' : ProfileFollows p' p'') :
    ProfileFollows p p'' :=
  ⟨h'.uuid.trans h.uuid, h'.name.trans h.name, h'.type.trans h.type, h'.timestamp.trans h.timestamp⟩

theorem follows_of_devices {f : Device → Device} (hprofiles : nm'.profiles = nm.profiles)
    (hdevices : nm'.devices = nm.devices.map f) (hf : ∀ d ∈ nm.devices, DeviceFollows d (f d)) :
    nm.Follows nm' where
  devices := ⟨f, hdevices, hf⟩
  profiles := ⟨fun p => p, hprofiles.trans (List.map_id' _).symm, fun p _ => .refl p⟩

theorem Follows.refl (nm : Nm) : nm.Follows nm :=
  follows_of_devices rfl (List.map_id' _).symm fun d _ => .refl d

theorem Follows.trans {nm'' : Nm} (h : nm.Follows nm') (h' : nm'.Follows nm'') : nm.Follows nm'' where
  devices := by
    obtain ⟨f, hf, hdevices⟩ := h.devices
    obtain ⟨f', hf', hdevices'⟩ := h'.devices
    refine ⟨f' ∘ f, by rw [hf', hf, List.map_map], fun d hd => (hdevices d hd).trans (hdevices' (f d) ?_)⟩
    rw [hf]
    exact List.mem_map_of_mem hd
  profiles := by
    obtain ⟨g, hg, hprofiles⟩ := h.profiles
    obtain ⟨g', hg', hprofiles'⟩ := h'.profiles
    refine ⟨g' ∘ g, by rw [hg', hg, List.map_map], fun p hp => (hprofiles p hp).trans (hprofiles' (g p) ?_)⟩
    rw [hg]
    exact List.mem_map_of_mem hp

theorem follows_modify {f : Profile → Profile} (hf : ∀ p, ProfileFollows p (f p)) (nm : Nm) (uuid : PyStr) :
    nm.Follows (nm.modify uuid f) where
  devices := ⟨fun d => d, (List.map_id' _).symm, fun d _ => .refl d⟩
  profiles := by
    refine ⟨fun p => if p.uuid = uuid then f p else p, rfl, fun p _ => ?_⟩
    show ProfileFollows p (if p.uuid = uuid then f p else p)
    split
    next => exact hf p
    next => exact .refl p

theorem follows_disconnect (nm : Nm) (device : PyStr) : nm.Follows (nm.disconnect device) := by
  refine follows_of_devices rfl rfl fun d _ => ?_
  split
  next => exact .down d
  next => exact .refl d

/-- The profile of a connected device comes up on it again. -/
theorem follows_activate (h : nm.Sound) (hlink : nm.links x ≠ none) (hactive : nm.activeOf x = some uuid) :
    nm.Follows (nm.activate x uuid) := by
  refine follows_of_devices rfl rfl fun d hd => ?_
  split
  next hname =>
    subst hname
    rw [links_of_mem h hd] at hlink
    rw [activeOf_of_mem h hd] at hactive
    obtain ⟨b, hb⟩ := Option.ne_none_iff_exists'.mp hlink
    obtain ⟨-, hstate, -⟩ := link_eq_some.mp hb
    exact ⟨rfl, rfl, fun _ => oneLine_connected, .inr ⟨hactive.symm, isConnectedState_connected.trans hstate.symm⟩⟩
  next =>
    split
    next => exact .down d
    next => exact .refl d

section

variable (h : nm.Follows nm')
include h

theorem Follows.of_mem {d' : Device} (hd' : d' ∈ nm'.devices) : ∃ d ∈ nm.devices, DeviceFollows d d' := by
  obtain ⟨f, hf, hdevices⟩ := h.devices
  rw [hf] at hd'
  obtain ⟨d, hd, rfl⟩ := List.mem_map.mp hd'
  exact ⟨d, hd, hdevices d hd⟩

theorem Follows.sound (hsound : nm.Sound) : nm'.Sound where
  names := by
    obtain ⟨f, hf, hdevices⟩ := h.devices
    have hsame : nm'.devices.map (·.name) = nm.devices.map (·.name) := by
      rw [hf, List.map_map]
      exact List.map_congr_left fun d hd => (hdevices d hd).name
    rw [hsame]
    exact hsound.names
  uuids := by
    obtain ⟨g, hg, hprofiles⟩ := h.profiles
    have hsame : nm'.profiles.map (·.uuid) = nm.profiles.map (·.uuid) := by
      rw [hg, List.map_map]
      exact List.map_congr_left fun p hp => (hprofiles p hp).uuid
    rw [hsame]
    exact hsound.uuids
  actives := by
    obtain ⟨f, hf, hdevices⟩ := h.devices
    have hkept : ∀ d ∈ nm.devices, ∀ uuid, (f d).active = some uuid → d.active = some uuid := by
      intro d hd uuid hactive
      rcases (hdevices d hd).active with hnone | ⟨hsame, -⟩
      · rw [hnone] at hactive
        cases hactive
      · exact hsame ▸ hactive
    intro d hd d' hd' uuid hactive hactive'
    rw [hf] at hd hd'
    obtain ⟨a, ha, rfl⟩ := List.mem_map.mp hd
    obtain ⟨a', ha', rfl⟩ := List.mem_map.mp hd'
    exact congrArg f (hsound.actives a ha a' ha' uuid (hkept a ha uuid hactive) (hkept a' ha' uuid hactive'))
  fields := fun d' hd' => by
    obtain ⟨d, hd, hd'⟩ := h.of_mem hd'
    obtain ⟨hname, htype, hstate⟩ := hsound.fields d hd
    rw [hd'.name, hd'.type]
    exact ⟨hname, htype, hd'.state hstate⟩

theorem Follows.showSaved : nm'.showSaved = nm.showSaved := by
  obtain ⟨g, hg, hprofiles⟩ := h.profiles
  unfold Nm.showSaved
  rw [hg, List.map_map]
  refine congrArg terseTable (List.map_congr_left fun p hp => ?_)
  obtain ⟨huuid, hname, htype, htimestamp⟩ := hprofiles p hp
  show (g p).name :: [(g p).uuid, (g p).type, (g p).timestamp] = _
  rw [huuid, hname, htype, htimestamp]

theorem Follows.named (name : PyStr) : (nm'.named name).map (·.uuid) = (nm.named name).map (·.uuid) := by
  obtain ⟨g, hg, hprofiles⟩ := h.profiles
  have hmap : nm'.named name = (nm.named name).map g := by
    unfold Nm.named
    rw [hg]
    exact find?_key_map fun p hp => (hprofiles p hp).name
  rw [hmap, Option.map_map]
  refine Option.map_congr fun p hp => ?_
  exact (hprofiles p (mem_of_find?_key hp).1).uuid

/-- The profile of a device on which one is active is the one that was active on it. -/
theorem Follows.activeProfile {d' : Device} {p' : Profile} (hd' : DeviceFollows d d')
    (hp' : nm'.activeProfile d' = some p') : ∃ p, nm.activeProfile d = some p ∧ ProfileFollows p p'
      ∧ isConnectedState d'.state = isConnectedState d.state := by
  obtain ⟨g, hg, hprofiles⟩ := h.profiles
  rcases hd'.active with hnone | ⟨hsame, hstate⟩
  · rw [(activeProfile_eq_some hp').1] at hnone
    cases hnone
  · unfold Nm.activeProfile at hp'
    rw [hsame, hg] at hp'
    obtain ⟨uuid, hactive, hfind⟩ := Option.bind_eq_some_iff.mp hp'
    rw [find?_key_map fun p hp => (hprofiles p hp).uuid] at hfind
    obtain ⟨p, hp, rfl⟩ := Option.map_eq_some_iff.mp hfind
    refine ⟨p, ?_, hprofiles p (mem_of_find?_key hp).1, hstate⟩
    unfold Nm.activeProfile
    rw [hactive, Option.bind_some]
    exact hp

theorem Follows.legible (hlegible : nm.Legible) : nm'.Legible := by
  intro d' hd' hlink p' hp'
  obtain ⟨d, hd, hfollows⟩ := h.of_mem hd'
  obtain ⟨b, hb⟩ := Option.isSome_iff_exists.mp hlink
  obtain ⟨hwifi, hstate, -⟩ := link_eq_some.mp hb
  obtain ⟨p, hp, hpp', hsame⟩ := h.activeProfile hfollows hp'
  have hwas : nm.link d = some !p.neverDefault := by
    refine link_eq_some.mpr ⟨?_, hsame ▸ hstate, p, hp, rfl⟩
    unfold Device.isWifi at hwifi ⊢
    rw [← hfollows.type]
    exact hwifi
  obtain ⟨hone, hne, hdash, hnamed⟩ := hlegible d hd (by rw [hwas]; rfl) p hp
  unfold ReadsName
  rw [hpp'.name, hpp'.uuid, h.named]
  exact ⟨hone, hne, hdash, hnamed⟩

theorem Follows.activeOf (x : PyStr) : nm'.activeOf x = none ∨ nm'.activeOf x = nm.activeOf x := by
  obtain ⟨f, hf, hdevices⟩ := h.devices
  unfold Nm.activeOf
  rw [device?_of_map hf fun d hd => (hdevices d hd).name]
  cases hd : nm.device? x with
  | none => exact .inr rfl
  | some d =>
    rw [Option.map_some, Option.bind_some, Option.bind_some]
    rcases (hdevices d (mem_of_find?_key hd).1).active with hnone | ⟨hsame, -⟩
    · exact .inl hnone
    · exact .inr hsame

end

end Follows

end Nm

/-! ## What is read of the links -/

section Reads

variable {nm : Nm} {d : Device} {p : Profile} {x : PyStr}

/-- The row of a Wi-Fi device. -/
def rowOfDevice (nm : Nm) (d : Device) : DeviceRow :=
  ⟨d.name, d.state, firstLine (((nm.activeProfile d).map (·.name)).getD [])⟩

theorem wifiDevices_show (h : nm.Sound) :
    wifiDevices (some nm.devStatus) = (nm.devices.filter (·.isWifi)).map (rowOfDevice nm) := by
  have hread := @readTable_name_last _ deviceRow (fun _ => rfl)
    (nm.devices.map fun d => ([d.name, d.type, d.state], ((nm.activeProfile d).map (·.name)).getD [])) (by
      intro r hr
      obtain ⟨d, hd, rfl⟩ := List.mem_map.mp hr
      obtain ⟨hname, htype, hstate⟩ := h.fields d hd
      refine ⟨List.cons_ne_nil _ _, fun field hfield => ?_⟩
      rcases List.mem_cons.mp hfield with rfl | hfield
      · exact hname
      rcases List.mem_cons.mp hfield with rfl | hfield
      · exact htype
      · rw [List.mem_singleton.mp hfield]
        exact hstate)
  rw [List.map_map, List.filterMap_map] at hread
  refine hread.trans ?_
  rw [← List.filterMap_eq_map, List.filterMap_filter]
  refine List.filterMap_congr fun d _ => ?_
  show (if d.type = lit "wifi" then some (rowOfDevice nm d) else none) = _
  unfold Device.isWifi
  simp only [decide_eq_true_eq]
  rfl

theorem deviceConnected_row (hlegible : nm.Legible) (hd : d ∈ nm.devices) (hwifi : d.isWifi = true) :
    deviceConnected (rowOfDevice nm d) = (nm.link d).isSome := by
  have hread : ∀ p, nm.activeProfile d = some p → nm.link d = some (!p.neverDefault) →
      firstLine p.name = p.name ∧ p.name ≠ [] ∧ p.name ≠ lit "--" := by
    intro p hp hlink
    obtain ⟨hone, hne, hdash, -⟩ := hlegible d hd (by rw [hlink]; rfl) p hp
    exact ⟨firstLine_of_oneLine hone, hne, hdash⟩
  unfold deviceConnected rowOfDevice
  unfold Nm.link at hread ⊢
  rw [hwifi] at hread ⊢
  cases hstate : isConnectedState d.state with
  | false => rfl
  | true =>
    rw [hstate] at hread
    cases hp : nm.activeProfile d with
    | none => rfl
    | some p =>
      obtain ⟨hfirst, hne, hdash⟩ := hread p hp (by rw [hp]; rfl)
      rw [Option.map_some, Option.getD_some, hfirst, decide_eq_true hne, decide_eq_true hdash]
      rfl

/-- Of devices with distinct names, what is found under the name of one. -/
theorem find?_filterMap_name {β : Type} {F : Device → Option β} {devices : List Device}
    (hnames : (devices.map (·.name)).Nodup) (hd : d ∈ devices) :
    (devices.filterMap fun d => (F d).map fun b => (b, d.name)).find? (fun r => r.2 = d.name)
      = (F d).map fun b => (b, d.name) := by
  induction devices with
  | nil => cases hd
  | cons d' devices ih =>
    rw [List.map_cons, List.nodup_cons] at hnames
    rw [filterMap_cons_append, List.find?_append]
    rcases List.mem_cons.mp hd with rfl | hd
    · have hnone : (devices.filterMap fun d => (F d).map fun b => (b, d.name)).find?
          (fun r => r.2 = d.name) = none := by
        refine List.find?_eq_none.mpr fun r hr hname => ?_
        obtain ⟨d', hd', hF⟩ := List.mem_filterMap.mp hr
        obtain ⟨b, -, rfl⟩ := Option.map_eq_some_iff.mp hF
        rw [decide_eq_true_eq] at hname
        exact hnames.1 (hname ▸ List.mem_map_of_mem hd')
      rw [hnone]
      cases F d with
      | none => rfl
      | some b => simp
    · have hne : d'.name ≠ d.name := fun heq => hnames.1 (heq ▸ List.mem_map_of_mem hd)
      rw [ih hnames.2 hd]
      cases F d' with
      | none => rfl
      | some b => simp [hne]

theorem activeConnectionFor_show (h : nm.Sound) (hd : d ∈ nm.devices) :
    activeConnectionFor (some nm.showActive) d.name = (nm.activeProfile d).map fun p => lastLine p.name := by
  have hread := @readTable_name_first _ activeRow (fun _ => rfl)
    (nm.devices.filterMap fun d => (nm.activeProfile d).map fun p => (p.name, [d.name])) (by
      intro r hr field hfield
      obtain ⟨d, hd, hr⟩ := List.mem_filterMap.mp hr
      obtain ⟨p, -, rfl⟩ := Option.map_eq_some_iff.mp hr
      rw [List.mem_singleton.mp hfield]
      exact (h.fields d hd).1)
  have hshow : nm.showActive = terseTable ((nm.devices.filterMap fun d =>
      (nm.activeProfile d).map fun p => (p.name, [d.name])).map fun r => r.1 :: r.2) := by
    unfold Nm.showActive
    rw [List.map_filterMap]
    refine congrArg terseTable (List.filterMap_congr fun d _ => ?_)
    rw [Option.map_map]
    rfl
  have hrows : readTable activeRow (some nm.showActive) = nm.devices.filterMap fun d =>
      ((nm.activeProfile d).map fun p => lastLine p.name).map fun name => (name, d.name) := by
    rw [hshow, hread, List.filterMap_filterMap]
    refine List.filterMap_congr fun d _ => ?_
    cases nm.activeProfile d <;> rfl
  unfold activeConnectionFor
  rw [hrows, find?_filterMap_name h.names hd, Option.map_map]
  exact Option.map_id'

/-- The name of the profile that is active on a connected device. -/
theorem activeConnectionFor_links (h : nm.Sound) (hlegible : nm.Legible) {b : Bool}
    (hlink : nm.links x = some b) : ∃ p, nm.activeOf x = some p.uuid ∧ b = !p.neverDefault
      ∧ p ∈ nm.profiles ∧ nm.ReadsName p ∧ activeConnectionFor (some nm.showActive) x = some p.name := by
  obtain ⟨d, hd, rfl, hone⟩ := (Nm.links_eq_some h).mp hlink
  obtain ⟨-, -, p, hp, hb⟩ := Nm.link_eq_some.mp hone
  obtain ⟨hactive, hmem⟩ := Nm.activeProfile_eq_some hp
  have hreads := hlegible d hd (by rw [hone]; rfl) p hp
  rw [activeConnectionFor_show h hd, hp, Option.map_some, lastLine_of_oneLine hreads.1, Nm.activeOf_of_mem h hd]
  exact ⟨p, hactive, hb, hmem, hreads, rfl⟩

theorem named_of_readsName (h : nm.Sound) (hp : p ∈ nm.profiles) (hreads : nm.ReadsName p) :
    nm.named p.name = some p := by
  obtain ⟨q, hq, huuid⟩ := Option.map_eq_some_iff.mp hreads.2.2.2
  have hmem := (mem_of_find?_key hq).1
  rw [hq, List.inj_on_of_nodup_map h.uuids hmem hp huuid]

/-- `never-default` is read as it is set. -/
theorem connectionNeverDefault_show {conn : PyStr} (h : nm.named conn = some p) :
    connectionNeverDefault (nm.showNeverDefault conn) = p.neverDefault := by
  unfold Nm.showNeverDefault
  rw [h, Option.map_some]
  cases p.neverDefault with
  | true => decide +kernel
  | false => decide +kernel

/-- A device is taken for one that carries the default route. -/
def RouteReads.Sees (r : RouteReads) (u : PyStr → Option Bool) (x : PyStr) : Prop :=
  r.active x = true ∧ (u x = some true ∨ u x = some false ∧ r.neverDefault x = false)

/-- What `_has_other_primary` makes of a connected device. -/
theorem sees_iff (h : nm.Sound) (hlegible : nm.Legible) {b : Bool} (hlink : nm.links x = some b)
    (r : RouteReads) :
    (match activeConnectionFor (if r.active x then some nm.showActive else none) x with
      | none => false
      | some conn => decide (conn ≠ []) && !connectionNeverDefault
          (if r.neverDefault x then nm.showNeverDefault conn else none)) = true
      ↔ r.Sees nm.links x := by
  obtain ⟨p, -, hb, hp, hreads, hconn⟩ := activeConnectionFor_links h hlegible hlink
  unfold RouteReads.Sees
  cases hactive : r.active x with
  | false =>
    have hnone : activeConnectionFor none x = none := rfl
    rw [if_neg (by decide), hnone]
    simp
  | true =>
    rw [if_pos rfl, hconn, hlink, hb]
    simp only [decide_eq_true hreads.2.1, Bool.true_and]
    cases hnever : r.neverDefault x with
    | false =>
      have hfalse : connectionNeverDefault none = false := rfl
      rw [if_neg (by decide), hfalse]
      cases p.neverDefault <;> simp
    | true =>
      rw [if_pos rfl, connectionNeverDefault_show (named_of_readsName h hp hreads)]
      cases p.neverDefault <;> simp

/-- **What `_has_other_primary` finds.** -/
theorem hasOtherPrimary_iff (h : nm.Sound) (hlegible : nm.Legible) (r : RouteReads) (exclude : PyStr) :
    hasOtherPrimary r nm exclude = true ↔ r.status = true ∧ ∃ x, x ≠ exclude ∧ r.Sees nm.links x := by
  have hthere : ∀ y, r.Sees nm.links y → ∃ b, nm.links y = some b := by
    rintro y ⟨-, hlink | ⟨hlink, -⟩⟩
    · exact ⟨_, hlink⟩
    · exact ⟨_, hlink⟩
  unfold hasOtherPrimary
  cases r.status with
  | false =>
    have hnone : wifiDevices none = [] := rfl
    rw [if_neg (by decide), hnone]
    simp
  | true =>
    rw [if_pos rfl, wifiDevices_show h, List.any_eq_true]
    constructor
    · rintro ⟨row, hrow, hfound⟩
      obtain ⟨d, hd, rfl⟩ := List.mem_map.mp hrow
      obtain ⟨hmem, hwifi⟩ := List.mem_filter.mp hd
      rw [Bool.and_eq_true, Bool.and_eq_true, deviceConnected_row hlegible hmem hwifi] at hfound
      obtain ⟨⟨hne, hlink⟩, hsees⟩ := hfound
      obtain ⟨b, hb⟩ := Option.isSome_iff_exists.mp hlink
      rw [← Nm.links_of_mem h hmem] at hb
      exact ⟨rfl, d.name, of_decide_eq_true hne, (sees_iff h hlegible hb r).mp hsees⟩
    · rintro ⟨-, y, hne, hsees⟩
      obtain ⟨b, hb⟩ := hthere y hsees
      obtain ⟨d, hmem, rfl, hlink⟩ := (Nm.links_eq_some h).mp hb
      have hwifi := (Nm.link_eq_some.mp hlink).1
      refine ⟨rowOfDevice nm d, List.mem_map_of_mem (List.mem_filter.mpr ⟨hmem, hwifi⟩), ?_⟩
      rw [Bool.and_eq_true, Bool.and_eq_true, deviceConnected_row hlegible hmem hwifi, hlink]
      exact ⟨⟨decide_eq_true hne, rfl⟩, (sees_iff h hlegible hb r).mpr hsees⟩

end Reads

end EdgeSensor.Console
