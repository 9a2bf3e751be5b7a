import EdgeSensor.Console.EdgexDevices

/-!
# The console and its devices

Writing a device, listing it and deleting it agree on what a device is only through the texts of
the files. `deleteFrom_of_passes` says what the loop of the deletion leaves behind;
`coherent_iff` when the device that has been written is one device for all three.
-/

namespace EdgeSensor.Console

open EdgeSensor.Lib EdgeSensor.Py EdgeSensor.Py.Regex

/-! ## The directory after a step -/

/-- The files that are looked at, in the order in which they are found. -/
def DevicesDir.yamlFiles (dir : DevicesDir) : List PyStr := dir.glob ".yaml" ++ dir.glob ".yml"

section Directory

variable {dir : DevicesDir} {file other : PyStr} {content : ConfigFile} {suffix : String}

theorem mem_glob : file ∈ dir.glob suffix
    ↔ Dict.get? dir.files file ≠ none ∧ lit suffix <:+ file := by
  unfold DevicesDir.glob
  rw [List.mem_filter, decide_eq_true_iff, Dict.mem_keys_iff]

theorem mem_yamlFiles : file ∈ dir.yamlFiles
    ↔ Dict.get? dir.files file ≠ none ∧ (lit ".yaml" <:+ file ∨ lit ".yml" <:+ file) := by
  unfold DevicesDir.yamlFiles
  rw [List.mem_append, mem_glob, mem_glob, ← and_or_left]

theorem nodup_yamlFiles (dir : DevicesDir) : dir.yamlFiles.Nodup := by
  refine List.nodup_append.mpr ⟨dir.distinct.filter _, dir.distinct.filter _, ?_⟩
  rintro file hyaml _ hyml rfl
  exact not_both_suffixes (mem_glob.mp hyaml).2 (mem_glob.mp hyml).2

theorem sortedFiles_perm (dir : DevicesDir) : dir.sortedFiles.Perm dir.yamlFiles :=
  (List.mergeSort_perm _ _).append (List.mergeSort_perm _ _)

theorem get?_unlink (dir : DevicesDir) (file other : PyStr) :
    Dict.get? (dir.unlink file).files other
      = if other = file then none else Dict.get? dir.files other := by
  unfold DevicesDir.unlink
  rw [Dict.get?_filter dir.distinct]
  cases hget : Dict.get? dir.files other with
  | none =>
    split
    next => rfl
    next => rfl
  | some content =>
    split
    next h => simp [h]
    next h => simp [h]

theorem readText_unlink (h : other ≠ file) : (dir.unlink file).readText other = dir.readText other := by
  unfold DevicesDir.readText
  rw [get?_unlink, if_neg h]

theorem mem_yamlFiles_unlink :
    other ∈ (dir.unlink file).yamlFiles ↔ other ∈ dir.yamlFiles ∧ other ≠ file := by
  rw [mem_yamlFiles, mem_yamlFiles, get?_unlink]
  by_cases h : other = file
  · simp [h]
  · simp [h]

theorem readText_put (dir : DevicesDir) (file other : PyStr) (content : ConfigFile) :
    (dir.put file content).readText other
      = if file = other then content.readText else dir.readText other := by
  unfold DevicesDir.readText DevicesDir.put
  rw [Dict.get?_set]
  split
  next => rfl
  next => rfl

theorem mem_yamlFiles_put (h : lit ".yaml" <:+ file) :
    other ∈ (dir.put file content).yamlFiles ↔ other = file ∨ other ∈ dir.yamlFiles := by
  unfold DevicesDir.put
  rw [mem_yamlFiles, mem_yamlFiles, Dict.get?_set]
  by_cases hother : file = other
  · subst hother
    simp [h]
  · simp [hother, Ne.symm hother]

end Directory

/-! ## Going through the files -/

section Deletion

variable {safe : PyStr} {dir after : DevicesDir} {files : List PyStr} {file other : PyStr}
  {removed last : Option PyStr}

/-- The file has a line of the device. -/
def HasDevice (safe : PyStr) (dir : DevicesDir) (file : PyStr) : Prop :=
  ∃ text, dir.readText file = .ok text ∧ (search (deviceNamed safe) text).isSome = true

/-- The deletion of a device gets over the file: it can be read, and if it has a line of the
device it has no other. -/
def PassesDeletion (safe : PyStr) (dir : DevicesDir) (file : PyStr) : Prop :=
  ∃ text, dir.readText file = .ok text
    ∧ ((search (deviceNamed safe) text).isSome = true → (namesIn text).length ≤ 1)

theorem hasDevice_unlink (h : other ≠ file) :
    HasDevice safe (dir.unlink file) other ↔ HasDevice safe dir other := by
  unfold HasDevice
  rw [readText_unlink h]

theorem passesDeletion_unlink (h : other ≠ file) :
    PassesDeletion safe (dir.unlink file) other ↔ PassesDeletion safe dir other := by
  unfold PassesDeletion
  rw [readText_unlink h]

/-- One file of the loop. -/
theorem deleteFrom_cons (hpass : PassesDeletion safe dir file) :
    HasDevice safe dir file
        ∧ deleteFrom safe (file :: files) dir removed
          = deleteFrom safe files (dir.unlink file) (some file)
      ∨ ¬ HasDevice safe dir file
        ∧ deleteFrom safe (file :: files) dir removed = deleteFrom safe files dir removed := by
  obtain ⟨text, htext, hone⟩ := hpass
  rw [deleteFrom, htext]
  show _ ∧ (if (search (deviceNamed safe) text).isNone = true then _ else _) = _
    ∨ _ ∧ (if (search (deviceNamed safe) text).isNone = true then _ else _) = _
  cases hhit : search (deviceNamed safe) text with
  | some done =>
    rw [hhit] at hone
    refine .inl ⟨⟨text, htext, by rw [hhit]; rfl⟩, ?_⟩
    rw [Option.isNone_some, if_neg Bool.false_ne_true, if_pos (hone rfl)]
  | none =>
    refine .inr ⟨?_, if_pos rfl⟩
    rintro ⟨text', htext', hhit'⟩
    rw [htext] at htext'
    rw [← Except.ok.inj htext', hhit] at hhit'
    cases hhit'

/-- The files that the loop leaves are as they were, and have no line of the device. -/
theorem deleteFrom_of_passes (hdistinct : files.Nodup)
    (hpass : ∀ file ∈ files, PassesDeletion safe dir file) :
    ∃ after last, deleteFrom safe files dir removed = (after, .ok last)
      ∧ (last = none → removed = none ∧ ∀ file ∈ files, ¬ HasDevice safe dir file)
      ∧ ∀ file ∈ after.yamlFiles, file ∈ dir.yamlFiles ∧ after.readText file = dir.readText file
        ∧ (file ∈ files → ¬ HasDevice safe dir file) := by
  induction files generalizing dir removed with
  | nil =>
    refine ⟨dir, removed, rfl, fun h => ⟨h, fun file hfile => absurd hfile List.not_mem_nil⟩, ?_⟩
    exact fun file hfile => ⟨hfile, rfl, fun hmem => absurd hmem List.not_mem_nil⟩
  | cons file files ih =>
    obtain ⟨hfile, hdistinct⟩ := List.nodup_cons.mp hdistinct
    obtain ⟨hpassFile, hpass⟩ := List.forall_mem_cons.mp hpass
    rcases deleteFrom_cons hpassFile with ⟨hhas, heq⟩ | ⟨hnot, heq⟩
    · have hne : ∀ other ∈ files, other ≠ file := by
        rintro other hother rfl
        exact hfile hother
      obtain ⟨after, last, hdelete, hlast, hleft⟩ := @ih (dir.unlink file) (some file) hdistinct
        fun other hother => (passesDeletion_unlink (hne other hother)).mpr (hpass other hother)
      refine ⟨after, last, heq.trans hdelete, fun h => absurd (hlast h).1 (Option.some_ne_none _), ?_⟩
      intro other hother
      obtain ⟨hmem, hread, hnone⟩ := hleft other hother
      obtain ⟨hmem, hneq⟩ := mem_yamlFiles_unlink.mp hmem
      refine ⟨hmem, hread.trans (readText_unlink hneq), fun hin => ?_⟩
      rw [← hasDevice_unlink hneq]
      exact hnone ((List.mem_cons.mp hin).resolve_left hneq)
    · obtain ⟨after, last, hdelete, hlast, hleft⟩ := @ih dir removed hdistinct hpass
      refine ⟨after, last, heq.trans hdelete, ?_, ?_⟩
      · intro h
        exact ⟨(hlast h).1, List.forall_mem_cons.mpr ⟨hnot, (hlast h).2⟩⟩
      · intro other hother
        obtain ⟨hmem, hread, hnone⟩ := hleft other hother
        refine ⟨hmem, hread, fun hin => ?_⟩
        rcases List.mem_cons.mp hin with rfl | hin
        · exact hnot
        · exact hnone hin

/-- And a loop that comes to its end got over each file. -/
theorem passes_of_deleteFrom (hdistinct : files.Nodup)
    (h : deleteFrom safe files dir removed = (after, .ok last)) :
    ∀ file ∈ files, PassesDeletion safe dir file := by
  induction files generalizing dir removed with
  | nil => exact fun file hfile => absurd hfile List.not_mem_nil
  | cons file files ih =>
    obtain ⟨hfile, hdistinct⟩ := List.nodup_cons.mp hdistinct
    have hpass : PassesDeletion safe dir file := by
      rw [deleteFrom] at h
      split at h
      next => cases (Prod.mk.inj h).2
      next text htext =>
        refine ⟨text, htext, fun hhit => ?_⟩
        rw [Option.isNone_eq_false_iff.mpr hhit, if_neg Bool.false_ne_true] at h
        split at h
        next hone => exact hone
        next => cases (Prod.mk.inj h).2
    refine List.forall_mem_cons.mpr ⟨hpass, ?_⟩
    rcases deleteFrom_cons hpass with ⟨-, heq⟩ | ⟨-, heq⟩
    · intro other hother
      have hne : other ≠ file := by
        rintro rfl
        exact hfile hother
      exact (passesDeletion_unlink hne).mp (ih hdistinct (heq.symm.trans h) other hother)
    · exact ih hdistinct (heq.symm.trans h)

end Deletion

/-! ## Listing -/

section Listing

variable {dir : DevicesDir} {file : PyStr}

theorem listFile_of_readText {text : PyStr} (h : dir.readText file = .ok text) :
    listFile dir file = .ok (if isExample file then [] else
      (namesIn text).map fun name => ⟨name, file, dir.path ++ lit "/" ++ file⟩) := by
  unfold listFile parseNames
  rw [h]
  split
  next => rfl
  next => rfl

/-- Of what each file gives, what is said of one file. -/
theorem filter_flatMap_file {files : List PyStr} {items : PyStr → List ListedDevice}
    (hdistinct : files.Nodup) (hfile : file ∈ files)
    (hitems : ∀ other ∈ files, ∀ item ∈ items other, item.file = other) :
    (files.flatMap items).filter (fun item => item.file = file) = items file := by
  induction files with
  | nil => exact absurd hfile List.not_mem_nil
  | cons other files ih =>
    obtain ⟨hother, hdistinct⟩ := List.nodup_cons.mp hdistinct
    obtain ⟨hitem, hitems⟩ := List.forall_mem_cons.mp hitems
    rw [List.flatMap_cons, List.filter_append]
    by_cases heq : other = file
    · subst heq
      have hown : (items other).filter (fun item => item.file = other) = items other :=
        List.filter_eq_self.mpr fun item h => decide_eq_true (hitem item h)
      have hrest : (files.flatMap items).filter (fun item => item.file = other) = [] := by
        refine List.filter_eq_nil_iff.mpr fun item hmem hsame => ?_
        obtain ⟨f, hf, hitemf⟩ := List.mem_flatMap.mp hmem
        have hf' : f = other := (hitems f hf item hitemf).symm.trans (of_decide_eq_true hsame)
        exact hother (hf' ▸ hf)
      rw [hown, hrest, List.append_nil]
    · have hown : (items other).filter (fun item => item.file = file) = [] := by
        refine List.filter_eq_nil_iff.mpr fun item hmem hsame => ?_
        exact heq ((hitem item hmem).symm.trans (of_decide_eq_true hsame))
      rw [hown, List.nil_append]
      exact ih hdistinct ((List.mem_cons.mp hfile).resolve_left (Ne.symm heq)) hitems

/-- If each file can be read, what is listed for one is its names. -/
theorem listConfigDevices_file (hdir : dir.isDir = true)
    (hread : ∀ file ∈ dir.yamlFiles, ∃ text, dir.readText file = .ok text)
    (hfile : file ∈ dir.yamlFiles) (hexample : isExample file = false) {text : PyStr}
    (htext : dir.readText file = .ok text) :
    ∃ listing, listConfigDevices dir = .ok listing
      ∧ listing.devices.filter (fun item => item.file = file)
        = (namesIn text).map fun name => ⟨name, file, dir.path ++ lit "/" ++ file⟩ := by
  have hmem : ∀ file, file ∈ dir.sortedFiles ↔ file ∈ dir.yamlFiles :=
    fun file => (sortedFiles_perm dir).mem_iff
  have hlist : ∀ file ∈ dir.sortedFiles,
      listFile dir file = .ok ((listFile dir file).toOption.getD []) := by
    intro file hfile
    obtain ⟨text, htext⟩ := hread file ((hmem file).mp hfile)
    rw [listFile_of_readText htext]
    rfl
  refine ⟨⟨(dir.sortedFiles.map fun file => (listFile dir file).toOption.getD []).flatten,
    dir.path, dir.writable⟩, ?_, ?_⟩
  · unfold listConfigDevices
    rw [hdir, mapM_eq_ok hlist]
    rfl
  · have hitems : ∀ other ∈ dir.sortedFiles,
        ∀ item ∈ (listFile dir other).toOption.getD [], item.file = other := by
      intro other hother item hitem
      obtain ⟨text, htext⟩ := hread other ((hmem other).mp hother)
      rw [listFile_of_readText htext] at hitem
      have hitem' : item ∈ (if isExample other then [] else (namesIn text).map
          fun name => (⟨name, other, dir.path ++ lit "/" ++ other⟩ : ListedDevice)) := hitem
      split at hitem'
      next => exact absurd hitem' List.not_mem_nil
      next =>
        obtain ⟨name, -, rfl⟩ := List.mem_map.mp hitem'
        rfl
    show ((dir.sortedFiles.map _).flatten).filter _ = _
    rw [← List.flatMap_def, filter_flatMap_file ((sortedFiles_perm dir).nodup_iff.mpr
      (nodup_yamlFiles dir)) ((hmem file).mpr hfile) hitems, listFile_of_readText htext, hexample]
    rfl

end Listing

/-! ## One device for all of them -/

section Coherence

variable {text : ConfigText} {docker : DockerHost} {dir after : DevicesDir} {payload : Value}
  {device : UpsertedDevice} {file : PyStr}

/-- What a call that returns has done. -/
structure Upserted (text : ConfigText) (dir : DevicesDir) (payload : Value) (after : DevicesDir)
    (device : UpsertedDevice) (content : PyStr) : Prop where
  protocol : DeviceProtocol.ofText (text.lower (textField text payload "protocol" []))
    = some device.protocol
  name : validateName (textField text payload "name" []) = .ok device.name
  isDir : dir.isDir = true
  formatted : deviceContent text device.protocol payload device.name
    (textField text payload "interval" (lit "10s")) = .ok content
  file : device.file = deviceFile device.protocol device.name
  written : after = dir.put device.file (.text content)

theorem upserted (h : upsertConfigDevice text docker dir payload = (after, .ok device)) :
    ∃ content, Upserted text dir payload after device content := by
  unfold upsertConfigDevice at h
  split at h
  next => cases (Prod.mk.inj h).2
  next draft hdraft =>
    unfold draftDevice at hdraft
    dsimp only at hdraft
    split at hdraft
    next => cases hdraft
    next protocol hprotocol =>
      obtain ⟨name, hname, hdraft⟩ := bind_eq_ok.mp hdraft
      split at hdraft
      next => cases hdraft
      next hdir =>
        split at hdraft
        next => cases hdraft
        next =>
          obtain ⟨content, hcontent, hdraft⟩ := bind_eq_ok.mp hdraft
          obtain rfl : DeviceDraft.mk protocol name content = draft := Except.ok.inj hdraft
          unfold writeDevice at h
          dsimp only at h
          split at h
          next =>
            obtain ⟨hafter, hdevice⟩ := Prod.mk.inj h
            obtain ⟨restart, -, rfl⟩ := map_eq_ok.mp hdevice
            exact ⟨content, hprotocol, hname, by simpa using hdir, hcontent, rfl, hafter.symm⟩
          next => cases (Prod.mk.inj h).2

/-- What is written, if docker has nothing to restart. -/
theorem upsertConfigDevice_draft {draft : DeviceDraft}
    (hdraft : draftDevice text dir payload = .ok draft)
    (hencodable : PyStr.encodable draft.content = true)
    (hrunning : docker.running draft.protocol.container = false) :
    upsertConfigDevice text docker dir payload = (dir.put draft.file (.text draft.content),
      .ok ⟨draft.name, draft.protocol, draft.file, draft.protocol.service, none⟩) := by
  unfold upsertConfigDevice writeDevice
  rw [hdraft]
  dsimp only
  rw [if_pos hencodable, hrunning]
  rfl

theorem parseNames_of_readText {s : PyStr} (h : dir.readText file = .ok s) :
    parseNames dir file = .ok (namesIn s) := by
  unfold parseNames
  rw [h]

theorem deleteConfigDevice_eq {name : PyStr} (h : validateName name = .ok name) :
    deleteConfigDevice dir name = ((deleteFrom name dir.yamlFiles dir none).1,
      (deleteFrom name dir.yamlFiles dir none).2.map fun
        | some file => .removed file name
        | none => .notFound (lit "找不到設備 " ++ name)) := by
  unfold deleteConfigDevice
  rw [h]
  rfl

/-- The file that has been written is the one device, the list has it so, and the deletion takes
it away for good. -/
structure Coherent (after : DevicesDir) (device : UpsertedDevice) : Prop where
  parses : parseNames after device.file = .ok [device.name]
  lists : ∃ listing, listConfigDevices after = .ok listing
    ∧ listing.devices.filter (fun item => item.file = device.file)
      = [⟨device.name, device.file, after.path ++ lit "/" ++ device.file⟩]
  deletes : ∃ left file, deleteConfigDevice after device.name
      = (left, .ok (.removed file device.name))
    ∧ ∀ other ∈ left.yamlFiles, ∃ names, parseNames left other = .ok names ∧ device.name ∉ names

/-- What the console reads in the file that it has written. -/
theorem parseNames_upserted {content : PyStr} (h : Upserted text dir payload after device content) :
    after.readText device.file = .ok (universalNewlines content)
      ∧ (namesIn (universalNewlines content) = [device.name] ↔
        ∃ texts, insertedTexts text payload = .ok texts ∧ ∀ s ∈ texts, declaresDevice s = false) := by
  obtain ⟨layout, v, w, rfl, htexts⟩ :=
    exists_layout (isName_of_validateName h.name) h.protocol h.formatted
  constructor
  · rw [h.written, readText_put, if_pos rfl]
    rfl
  · rw [namesIn_fill (isName_of_validateName h.name), htexts]
    constructor
    · intro hquiet
      exact ⟨[v, w], rfl, by simpa using hquiet⟩
    · intro hquiet
      obtain ⟨texts, htexts, hquiet⟩ := hquiet
      rw [← Except.ok.inj htexts] at hquiet
      simpa using hquiet

/-- The device is one for all functions if none of the texts that go into its file declares
another, and the deletion gets over each of the other files; and only then. -/
theorem coherent_iff (h : upsertConfigDevice text docker dir payload = (after, .ok device)) :
    Coherent after device
      ↔ (∃ texts, insertedTexts text payload = .ok texts ∧ ∀ s ∈ texts, declaresDevice s = false)
        ∧ ∀ file ∈ dir.yamlFiles, file ≠ device.file → PassesDeletion device.name dir file := by
  obtain ⟨content, hup⟩ := upserted h
  obtain ⟨hread, hnames⟩ := parseNames_upserted hup
  have hself : validateName device.name = .ok device.name := validateName_self hup.name
  have hyaml : lit ".yaml" <:+ device.file := hup.file ▸ suffix_deviceFile _ _
  have hmem : ∀ file, file ∈ after.yamlFiles ↔ file = device.file ∨ file ∈ dir.yamlFiles := by
    intro file
    rw [hup.written]
    exact mem_yamlFiles_put hyaml
  have hother : ∀ file, file ≠ device.file → after.readText file = dir.readText file := by
    intro file hne
    rw [hup.written, readText_put, if_neg (Ne.symm hne)]
  have hpass : ∀ file, file ≠ device.file →
      (PassesDeletion device.name after file ↔ PassesDeletion device.name dir file) := by
    intro file hne
    unfold PassesDeletion
    rw [hother file hne]
  rw [← hnames]
  constructor
  · intro hco
    have hparse := (parseNames_of_readText hread).symm.trans hco.parses
    refine ⟨Except.ok.inj hparse, fun file hfile hne => ?_⟩
    obtain ⟨left, removed, hdelete, -⟩ := hco.deletes
    rw [deleteConfigDevice_eq hself] at hdelete
    obtain ⟨last, hlast, -⟩ := map_eq_ok.mp (Prod.mk.inj hdelete).2
    have hrun : deleteFrom device.name after.yamlFiles after none
        = ((deleteFrom device.name after.yamlFiles after none).1, .ok last) := Prod.ext rfl hlast
    exact (hpass file hne).mp
      (passes_of_deleteFrom (nodup_yamlFiles after) hrun file ((hmem file).mpr (.inr hfile)))
  · intro hcond
    obtain ⟨hone, hothers⟩ := hcond
    have hfound : (search (deviceNamed device.name) (universalNewlines content)).isSome = true := by
      refine search_of_mem_namesIn ?_
      rw [hone]
      exact List.mem_singleton_self _
    have hall : ∀ file ∈ after.yamlFiles, PassesDeletion device.name after file := by
      intro file hfile
      by_cases hne : file = device.file
      · rw [hne]
        exact ⟨_, hread, fun _ => by rw [hone]; exact Nat.le_refl 1⟩
      · exact (hpass file hne).mpr (hothers file (((hmem file).mp hfile).resolve_left hne) hne)
    have hreadable : ∀ file ∈ after.yamlFiles, ∃ s, after.readText file = .ok s := by
      intro file hfile
      obtain ⟨s, hs, -⟩ := hall file hfile
      exact ⟨s, hs⟩
    refine ⟨?_, ?_, ?_⟩
    · rw [parseNames_of_readText hread, hone]
    · have hdir : after.isDir = true := by
        rw [hup.written]
        exact hup.isDir
      have hexample : isExample device.file = false := by
        rw [hup.file]
        exact not_isExample hself
      obtain ⟨listing, hlisting, hitems⟩ := listConfigDevices_file hdir hreadable
        ((hmem _).mpr (.inl rfl)) hexample hread
      rw [hone] at hitems
      exact ⟨listing, hlisting, hitems⟩
    · obtain ⟨left, last, hrun, hlast, hleft⟩ :=
        @deleteFrom_of_passes device.name after _ none (nodup_yamlFiles after) hall
      have hhas : HasDevice device.name after device.file := ⟨_, hread, hfound⟩
      cases last with
      | none => exact absurd hhas ((hlast rfl).2 _ ((hmem _).mpr (.inl rfl)))
      | some removed =>
        refine ⟨left, removed, ?_, ?_⟩
        · rw [deleteConfigDevice_eq hself, hrun]
          rfl
        · intro other hin
          obtain ⟨hin, hsame, hnot⟩ := hleft other hin
          obtain ⟨s, hs⟩ := hreadable other hin
          refine ⟨namesIn s, parseNames_of_readText (hsame.trans hs), fun hname => ?_⟩
          exact hnot hin ⟨s, hs, search_of_mem_namesIn hname⟩

/-! ## A device, and a host with a line end in it -/

/-- `str`, `lower` and `int`, on ASCII texts and on numbers. -/
def asciiConfigText : ConfigText where
  repr := fun _ => []
  lower := fun s => s.map lowerPoint
  toInt := fun
    | .int n => .ok n
    | _ => .error (.valueError "invalid literal for int() with base 10")

/-- A relay at a host. -/
def relayPayload (host : String) : Value :=
  .obj [(lit "protocol", .str (lit "modbus")), (lit "name", .str (lit "relay-02")),
    (lit "host", .str (lit host)), (lit "port", .int 502)]

def relayDraft (host : String) : DeviceDraft :=
  ⟨.modbus, lit "relay-02", deviceYamlModbus (lit "relay-02") (lit host) 502 1 (lit "10s")⟩

theorem encodable_relayDraft {host : String} (h : PyStr.encodable (lit host) = true) :
    PyStr.encodable (relayDraft host).content = true := by
  unfold PyStr.encodable at h ⊢
  unfold relayDraft deviceYamlModbus
  simp only [List.all_append, h, Bool.and_true]
  decide +kernel

/-- A directory with the device of the feature bridge. -/
def bridgeDir : DevicesDir where
  files := [(lit "mqtt-feature-summary.yaml",
    .text (lit "deviceList:\n  - name: packet-sensor-features\n"))]
  distinct := by decide

theorem coherent_iff_relay : ∃ after device,
    upsertConfigDevice asciiConfigText {} bridgeDir (relayPayload "10.0.0.5") = (after, .ok device)
      ∧ Coherent after device := by
  have hdraft : draftDevice asciiConfigText bridgeDir (relayPayload "10.0.0.5")
      = .ok (relayDraft "10.0.0.5") := rfl
  have hupsert := @upsertConfigDevice_draft _ {} _ _ _ hdraft (encodable_relayDraft (by decide)) rfl
  refine ⟨_, _, hupsert, (coherent_iff hupsert).mpr ⟨⟨_, rfl, by decide +kernel⟩, ?_⟩⟩
  intro file hfile _
  have hbridge : file = lit "mqtt-feature-summary.yaml" := List.mem_singleton.mp hfile
  rw [hbridge]
  have hnone : (search (deviceNamed (lit "relay-02"))
      (lit "deviceList:\n  - name: packet-sensor-features\n")).isSome = false := by decide +kernel
  exact ⟨_, rfl, fun hsome => absurd (hnone.symm.trans hsome) Bool.false_ne_true⟩

theorem split_host_not_coherent : ∃ after device,
    upsertConfigDevice asciiConfigText {} {} (relayPayload "10.0.0.5\n  - name: x")
        = (after, .ok device)
      ∧ ¬ Coherent after device := by
  have hdraft : draftDevice asciiConfigText {} (relayPayload "10.0.0.5\n  - name: x")
      = .ok (relayDraft "10.0.0.5\n  - name: x") := rfl
  have hupsert := @upsertConfigDevice_draft _ {} _ _ _ hdraft (encodable_relayDraft (by decide)) rfl
  refine ⟨_, _, hupsert, fun hco => ?_⟩
  obtain ⟨content, hup⟩ := upserted hupsert
  obtain ⟨hread, hnames⟩ := parseNames_upserted hup
  have hone := Except.ok.inj ((parseNames_of_readText hread).symm.trans hco.parses)
  obtain ⟨texts, htexts, hquiet⟩ := hnames.mp hone
  have hhost : lit "10.0.0.5\n  - name: x" ∈ texts := by
    rw [← Except.ok.inj htexts]
    exact List.mem_cons_self
  have hdeclares : declaresDevice (lit "10.0.0.5\n  - name: x") = true := by decide +kernel
  exact absurd (hdeclares.symm.trans (hquiet _ hhost)) (by decide)

end Coherence

end EdgeSensor.Console
