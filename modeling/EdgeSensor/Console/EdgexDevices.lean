import EdgeSensor.Console.EdgexLines

/-!
# A device that the console writes, lists and deletes

The four texts that the console writes are one layout with two values in it: the name is checked,
the values are not. A value is written as it comes, and its line ends with it. So the file
declares the device that it is for, and what its values declare (`namesIn_fill`).

`coherent_iff` says when the other functions see one device: when no value declares another, and
when the deletion, which goes through all files, can go through those that were there before.
-/

namespace EdgeSensor.Console

open EdgeSensor.Lib EdgeSensor.Py EdgeSensor.Py.Regex

/-! ## The layout of a device file -/

/-- What stands around the name and the two values of a device file. -/
structure DeviceLayout where
  before : PyStr
  between : PyStr
  behind : PyStr
  profileFirst : lit "    p" <+: before
  quietBefore : Quiet true before false
  quietBetween : Quiet true between false
  quietBehind : Quiet true behind true
  settlesBetween : Settles between
  settlesBehind : Settles behind

section Layout

variable {layout : DeviceLayout} {name v w : PyStr}

/-- The text of a device file. -/
def DeviceLayout.fill (layout : DeviceLayout) (name v w : PyStr) : PyStr :=
  yamlHead ++ (name ++ 10 :: (layout.before
    ++ (v ++ 10 :: (layout.between ++ (w ++ 10 :: layout.behind)))))

theorem quiet_head : Quiet true (yaml ["# Managed by SenseL EdgeX Console", "deviceList:"]) true := by
  repeat refine quiet_yaml_cons (by decide +kernel) ?_
  exact quiet_yaml_nil

/-- The values are read line by line, the rest as it is. -/
theorem read_fill (hname : IsName name) : universalNewlines (layout.fill name v w)
    = yamlHead ++ (name ++ 10 :: (layout.before ++ (universalNewlines (v ++ [10])
      ++ (layout.between ++ (universalNewlines (w ++ [10]) ++ layout.behind))))) := by
  have hlf : ∀ s t : PyStr, universalNewlines (s ++ 10 :: t)
      = universalNewlines (s ++ [10]) ++ universalNewlines t := universalNewlinesFrom_line false
  have hend : universalNewlines layout.behind = layout.behind := by
    have h := universalNewlines_append layout.quietBehind.noCr []
    rw [List.append_nil] at h
    rw [h]
    exact List.append_nil _
  have hline : ∀ t, universalNewlines (name ++ 10 :: t) = name ++ 10 :: universalNewlines t := by
    intro t
    rw [universalNewlines_append (hname.not_mem rfl)]
    rfl
  unfold DeviceLayout.fill
  rw [universalNewlines_append (by decide : 13 ∉ yamlHead), hline,
    universalNewlines_append layout.quietBefore.noCr, hlf v,
    universalNewlines_append layout.quietBetween.noCr, hlf w, hend]

/-- The file declares its device first, and then what the values declare. -/
theorem namesIn_fill (hname : IsName name) :
    namesIn (universalNewlines (layout.fill name v w)) = [name]
      ↔ declaresDevice v = false ∧ declaresDevice w = false := by
  obtain ⟨rest, hbefore⟩ := layout.profileFirst
  have hline : ∀ s, Somewhere DeviceAt false (10 :: s) ↔ Somewhere DeviceAt true s :=
    fun s => or_iff_right fun h => Bool.false_ne_true h.1
  have hnames : namesIn (universalNewlines (layout.fill name v w))
      = name :: (anyDevice.pieces 0 false (10 :: (layout.before ++ (universalNewlines (v ++ [10])
        ++ (layout.between ++ (universalNewlines (w ++ [10]) ++ layout.behind)))))).filterMap
          Piece.found := by
    have hchars : ∀ s : PyStr, (s.map Piece.char).filterMap Piece.found = [] := by
      intro s
      rw [List.filterMap_map]
      exact List.filterMap_eq_nil_iff.mpr fun _ _ => rfl
    rw [read_fill hname, namesIn, findall, yamlHead, List.append_assoc, pieces_quiet quiet_head,
      List.filterMap_append, hchars, List.nil_append, ← hbefore, List.append_assoc,
      pieces_hit (matchAt_written hname _)]
    · rfl
    · have hlit : (lit "  - name: ").length = 10 := by decide
      simp only [List.length_append, List.length_cons, hlit]
      omega
  rw [hnames, List.cons_eq_cons, and_iff_right rfl, found_eq_nil_iff, hline,
    somewhere_quiet layout.quietBefore,
    somewhere_value layout.settlesBetween, somewhere_quiet layout.quietBetween]
  have hlast : Somewhere DeviceAt false (universalNewlines (w ++ [10]) ++ layout.behind)
      ↔ declaresDevice w = true := by
    have h := @somewhere_value w layout.behind layout.settlesBehind []
    rw [somewhere_quiet layout.quietBehind, or_iff_left (not_somewhere_nil true), List.append_nil] at h
    exact h
  rw [hlast, not_or, Bool.not_eq_true, Bool.not_eq_true]

end Layout

/-! ## The four of them -/

section Protocols

variable {stop : Bool} {s : PyStr} {name : PyStr}

/-- A line with a number in quotes. -/
theorem quiet_number (h : Quiet true s false) (n : Int) :
    Quiet true (s ++ lit (toString n) ++ lit "\"\n") true := by
  have hspace : ∀ c, isSpacePoint c = true → c ∉ lit (toString n) := by
    intro c hc hmem
    rw [isSpacePoint_toString n c hmem] at hc
    cases hc
  have hnumber : Quiet false (lit (toString n)) false := .inLine (hspace 13 rfl) (hspace 10 rfl)
  exact (h.append hnumber).append (.of_isQuiet (by decide +kernel))

/-- A line with the name in it. -/
theorem quiet_name (h : Quiet true s false) (hname : IsName name) :
    Quiet true (s ++ name ++ [10]) true :=
  (h.append (.inLine (hname.not_mem rfl) (hname.not_mem rfl))).append
    (.of_isQuiet (by decide +kernel))

theorem settles_port : Settles (lit "        Port: \"") := by
  intro σ
  cases σ <;> decide

theorem Settles.yaml {line : String} (h : Settles (lit line)) (lines : List String) :
    Settles (yaml (line :: lines)) := by
  show Settles ((line :: lines).flatMap _)
  rw [List.flatMap_cons, List.append_assoc]
  exact h.append _

theorem settles_policy : Settles (lit "        SecurityPolicy: \"None\"") := by
  intro σ
  cases σ <;> decide

theorem settles_onChange : Settles (lit "        onChange: false") := by
  intro σ
  cases σ <;> decide

/-- `_device_yaml_modbus`, around the host and the interval. -/
def modbusLayout (port unitId : Int) : DeviceLayout where
  before := yaml ["    profileName: ModbusRelay", "    description: Modbus TCP device",
      "    adminState: UNLOCKED", "    operatingState: UP", "    labels: [ot, modbus]",
      "    protocols:", "      modbus-tcp:"] ++ lit "        Address: "
  between := lit "        Port: \"" ++ lit (toString port) ++ lit "\"\n"
    ++ (lit "        UnitID: \"" ++ lit (toString unitId) ++ lit "\"\n")
    ++ (yaml ["        Timeout: \"5\"", "        IdleTimeout: \"5\"", "    autoEvents:"]
      ++ lit "      - interval: ")
  behind := yaml ["        onChange: false", "        sourceName: Status"]
  profileFirst := by decide
  quietBefore := by
    refine quiet_yaml_append ?_ (by decide +kernel)
    repeat refine quiet_yaml_cons (by decide +kernel) ?_
    exact quiet_yaml_nil
  quietBetween :=
    ((quiet_number (quiet_lit (by decide +kernel)) port).append
      (quiet_number (quiet_lit (by decide +kernel)) unitId)).append
      (quiet_yaml_append (quiet_yaml_cons rfl (quiet_yaml_cons rfl (quiet_yaml_cons rfl
        quiet_yaml_nil))) rfl)
  quietBehind := quiet_yaml_cons rfl (quiet_yaml_cons rfl quiet_yaml_nil)
  settlesBetween := by
    simp only [List.append_assoc]
    exact settles_port.append _
  settlesBehind := settles_onChange.yaml _

theorem deviceYamlModbus_eq (name host : PyStr) (port unitId : Int) (interval : PyStr) :
    deviceYamlModbus name host port unitId interval
      = (modbusLayout port unitId).fill name host interval := by
  unfold deviceYamlModbus DeviceLayout.fill modbusLayout
  simp only [List.append_assoc, List.cons_append, List.nil_append]

/-- `_device_yaml_mqtt`, around the host and the interval. -/
def mqttLayout (name : PyStr) (hname : IsName name) (port : Int) : DeviceLayout where
  before := yaml ["    profileName: FeatureSummary", "    description: MQTT feature bridge",
      "    adminState: UNLOCKED", "    operatingState: UP", "    serviceName: device-mqtt",
      "    labels: [ot, mqtt]", "    protocols:", "      mqtt:"]
    ++ (lit "        CommandTopic: command/" ++ name ++ [10]) ++ lit "        Host: "
  between := lit "        Port: \"" ++ lit (toString port) ++ lit "\"\n"
    ++ (lit "        ClientId: edgex-mqtt-" ++ name ++ [10])
    ++ (yaml ["        QoS: \"0\"", "    autoEvents:"] ++ lit "      - interval: ")
  behind := yaml ["        onChange: false", "        sourceName: FeatureSummary"]
  profileFirst := by
    rw [List.append_assoc]
    exact (by decide : lit "    p" <+: yaml ["    profileName: FeatureSummary"]).trans
      (List.prefix_append _ _)
  quietBefore := by
    refine (Quiet.append ?_ (quiet_name (quiet_lit (by decide +kernel)) hname)).append
      (quiet_lit (by decide +kernel))
    repeat refine quiet_yaml_cons (by decide +kernel) ?_
    exact quiet_yaml_nil
  quietBetween :=
    ((quiet_number (quiet_lit (by decide +kernel)) port).append
      (quiet_name (quiet_lit (by decide +kernel)) hname)).append
      (quiet_yaml_append (quiet_yaml_cons rfl (quiet_yaml_cons rfl quiet_yaml_nil)) rfl)
  quietBehind := quiet_yaml_cons rfl (quiet_yaml_cons rfl quiet_yaml_nil)
  settlesBetween := by
    simp only [List.append_assoc]
    exact settles_port.append _
  settlesBehind := settles_onChange.yaml _

theorem deviceYamlMqtt_eq {name : PyStr} (hname : IsName name) (host : PyStr) (port : Int)
    (interval : PyStr) : deviceYamlMqtt name host port interval
      = (mqttLayout name hname port).fill name host interval := by
  unfold deviceYamlMqtt DeviceLayout.fill mqttLayout
  simp only [List.append_assoc, List.cons_append, List.nil_append]

/-- `_device_yaml_opcua`, around the endpoint with its closing quote, and the interval. -/
def opcuaLayout : DeviceLayout where
  before := yaml ["    profileName: OPCUASample", "    description: OPC UA device",
      "    adminState: UNLOCKED", "    operatingState: UP", "    serviceName: device-opc-ua",
      "    labels: [ot, opcua]", "    protocols:", "      opc-ua:"]
    ++ lit "        Endpoint: \""
  between := yaml ["        SecurityPolicy: \"None\"", "        SecurityMode: \"None\"",
      "        AuthMode: \"Anonymous\"", "    autoEvents:"] ++ lit "      - interval: "
  behind := yaml ["        onChange: false", "        sourceName: AllResources"]
  profileFirst := by decide
  quietBefore := by
    refine quiet_yaml_append ?_ (by decide +kernel)
    repeat refine quiet_yaml_cons (by decide +kernel) ?_
    exact quiet_yaml_nil
  quietBetween := by
    refine quiet_yaml_append ?_ (by decide +kernel)
    repeat refine quiet_yaml_cons (by decide +kernel) ?_
    exact quiet_yaml_nil
  quietBehind := quiet_yaml_cons rfl (quiet_yaml_cons rfl quiet_yaml_nil)
  settlesBetween := (settles_policy.yaml _).append _
  settlesBehind := settles_onChange.yaml _

theorem quote_line : lit "\"\n" = lit "\"" ++ [10] := rfl

theorem deviceYamlOpcua_eq (name endpoint interval : PyStr) :
    deviceYamlOpcua name endpoint interval
      = opcuaLayout.fill name (endpoint ++ lit "\"") interval := by
  unfold deviceYamlOpcua DeviceLayout.fill opcuaLayout
  simp only [quote_line, List.append_assoc, List.cons_append, List.nil_append]

/-- `_device_yaml_s7`, around the host with its closing quote, and the interval. -/
def s7Layout (port rack slot : Int) : DeviceLayout where
  before := yaml ["    profileName: S7Sample", "    description: Siemens S7 PLC",
      "    adminState: UNLOCKED", "    operatingState: UP", "    serviceName: device-s7",
      "    labels: [ot, s7]", "    protocols:", "      s7:"] ++ lit "        Host: \""
  between := lit "        Port: \"" ++ lit (toString port) ++ lit "\"\n"
    ++ (lit "        Rack: \"" ++ lit (toString rack) ++ lit "\"\n")
    ++ (lit "        Slot: \"" ++ lit (toString slot) ++ lit "\"\n")
    ++ (yaml ["        Timeout: \"30\"", "        IdleTimeout: \"30\"", "    autoEvents:"]
      ++ lit "      - interval: ")
  behind := yaml ["        onChange: false", "        sourceName: AllResource"]
  profileFirst := by decide
  quietBefore := by
    refine quiet_yaml_append ?_ (by decide +kernel)
    repeat refine quiet_yaml_cons (by decide +kernel) ?_
    exact quiet_yaml_nil
  quietBetween :=
    (((quiet_number (quiet_lit (by decide +kernel)) port).append
      (quiet_number (quiet_lit (by decide +kernel)) rack)).append
      (quiet_number (quiet_lit (by decide +kernel)) slot)).append
      (quiet_yaml_append (quiet_yaml_cons rfl (quiet_yaml_cons rfl (quiet_yaml_cons rfl
        quiet_yaml_nil))) rfl)
  quietBehind := quiet_yaml_cons rfl (quiet_yaml_cons rfl quiet_yaml_nil)
  settlesBetween := by
    simp only [List.append_assoc]
    exact settles_port.append _
  settlesBehind := settles_onChange.yaml _

theorem deviceYamlS7_eq (name host : PyStr) (port rack slot : Int) (interval : PyStr) :
    deviceYamlS7 name host port rack slot interval
      = (s7Layout port rack slot).fill name (host ++ lit "\"") interval := by
  unfold deviceYamlS7 DeviceLayout.fill s7Layout
  simp only [quote_line, List.append_assoc, List.cons_append, List.nil_append]

end Protocols

/-! ## What a payload puts into the file -/

section Inserted

variable {text : ConfigText} {payload : Value} {protocol : DeviceProtocol}
  {name interval content : PyStr}

/-- The texts that go into the file as they come, each to the end of its line. -/
def insertedTexts (text : ConfigText) (payload : Value) : Except ConfigError (List PyStr) :=
  let interval := textField text payload "interval" (lit "10s")
  match DeviceProtocol.ofText (text.lower (textField text payload "protocol" [])) with
  | none => .ok []
  | some .modbus => .ok [textField text payload "host" (lit "modbus-simulator"), interval]
  | some .mqtt => .ok [textField text payload "host" (lit "local-mqtt"), interval]
  | some .opcua => do
    let port ← intField text payload "port" 4840
    let endpoint := textField text payload "endpoint" (lit "opc.tcp://"
      ++ textField text payload "host" (lit "127.0.0.1") ++ lit ":" ++ lit (toString port))
    return [endpoint ++ lit "\"", interval]
  | some .s7 =>
    .ok [textField text payload "host" (lit "192.168.1.60") ++ lit "\"", interval]

/-- Whatever the protocol, the file is a layout with two values in it. -/
theorem exists_layout (hname : IsName name)
    (hprotocol : DeviceProtocol.ofText (text.lower (textField text payload "protocol" []))
      = some protocol)
    (h : deviceContent text protocol payload name (textField text payload "interval" (lit "10s"))
      = .ok content) :
    ∃ (layout : DeviceLayout) (v w : PyStr), content = layout.fill name v w
      ∧ insertedTexts text payload = .ok [v, w] := by
  unfold insertedTexts
  rw [hprotocol]
  cases protocol with
  | modbus =>
    obtain ⟨port, -, h⟩ := bind_eq_ok.mp h
    obtain ⟨unitId, -, h⟩ := bind_eq_ok.mp h
    have hcontent : deviceYamlModbus _ _ _ _ _ = content := Except.ok.inj h
    exact ⟨modbusLayout port unitId, _, _, hcontent.symm.trans (deviceYamlModbus_eq _ _ _ _ _), rfl⟩
  | mqtt =>
    obtain ⟨port, -, h⟩ := bind_eq_ok.mp h
    have hcontent : deviceYamlMqtt _ _ _ _ = content := Except.ok.inj h
    exact ⟨mqttLayout name hname port, _, _, hcontent.symm.trans (deviceYamlMqtt_eq hname _ _ _), rfl⟩
  | opcua =>
    obtain ⟨port, hport, h⟩ := bind_eq_ok.mp h
    have hcontent : deviceYamlOpcua _ _ _ = content := Except.ok.inj h
    refine ⟨opcuaLayout, _, _, hcontent.symm.trans (deviceYamlOpcua_eq _ _ _), ?_⟩
    exact bind_eq_ok.mpr ⟨port, hport, rfl⟩
  | s7 =>
    obtain ⟨port, -, h⟩ := bind_eq_ok.mp h
    obtain ⟨rack, -, h⟩ := bind_eq_ok.mp h
    obtain ⟨slot, -, h⟩ := bind_eq_ok.mp h
    have hcontent : deviceYamlS7 _ _ _ _ _ _ = content := Except.ok.inj h
    exact ⟨s7Layout port rack slot, _, _, hcontent.symm.trans (deviceYamlS7_eq _ _ _ _ _ _), rfl⟩

end Inserted

/-! ## Names -/

section ValidName

variable {raw name : PyStr} {protocol : DeviceProtocol}

/-- A name that is accepted is stripped, and of the characters of names. -/
theorem validateName_eq_ok (h : validateName raw = .ok name) :
    name.strip = name ∧ name ≠ [] ∧ ∀ c ∈ name, isNamePoint c = true := by
  unfold validateName at h
  split at h
  next hmatches =>
    cases h
    -- the final newline that the pattern allows has been stripped
    have hlast : raw.strip.getLast? ≠ some 10 := by
      intro hlast
      have hne : (raw.dropWhile isSpacePoint).rdropWhile isSpacePoint ≠ [] := by
        intro hnil
        have hstrip : raw.strip = [] := hnil
        rw [hstrip] at hlast
        cases hlast
      have hnot := List.rdropWhile_last_not isSpacePoint (raw.dropWhile isSpacePoint) hne
      have hend : ((raw.dropWhile isSpacePoint).rdropWhile isSpacePoint).getLast hne = 10 :=
        Option.some.inj ((List.getLast?_eq_some_getLast hne).symm.trans hlast)
      rw [hend] at hnot
      exact hnot rfl
    have hfits : ∀ s : PyStr, fitsName s = true → s ≠ [] ∧ ∀ c ∈ s, isNamePoint c = true := by
      intro s hs
      cases s with
      | nil => cases hs
      | cons c s =>
        rw [fitsName, Bool.and_eq_true, Bool.and_eq_true, List.all_eq_true] at hs
        refine ⟨List.cons_ne_nil _ _, List.forall_mem_cons.mpr ⟨?_, hs.1.2⟩⟩
        unfold isNamePoint
        rw [hs.1.1]
        rfl
    rw [matchesName, Bool.or_eq_true, Bool.and_eq_true] at hmatches
    rcases hmatches with hmatches | hmatches
    · exact ⟨strip_strip raw, hfits _ hmatches⟩
    · exact absurd (of_decide_eq_true hmatches.1) hlast
  next => cases h

theorem isSpacePoint_of_isNamePoint {c : Nat} (h : isNamePoint c = true) : isSpacePoint c = false := by
  unfold isNamePoint isLetterPoint at h
  unfold isSpacePoint
  simp only [Bool.or_eq_true, Bool.and_eq_true, decide_eq_true_eq, beq_iff_eq] at h
  simp only [Bool.or_eq_false_iff, Bool.and_eq_false_iff, decide_eq_false_iff_not]
  omega

theorem isName_of_validateName (h : validateName raw = .ok name) : IsName name where
  ne_nil := (validateName_eq_ok h).2.1
  nonspace := fun c hc => isSpacePoint_of_isNamePoint ((validateName_eq_ok h).2.2 c hc)

/-- It is accepted again. -/
theorem validateName_self (h : validateName raw = .ok name) : validateName name = .ok name := by
  have hstrip := (validateName_eq_ok h).1
  have hraw : raw.strip = name := by
    unfold validateName at h
    split at h
    next => exact Except.ok.inj h
    next => cases h
  unfold validateName at h ⊢
  rw [hraw] at h
  rw [hstrip]
  exact h

/-- The file of a device is a `.yaml` file, and not an example. -/
theorem suffix_deviceFile (protocol : DeviceProtocol) (name : PyStr) :
    lit ".yaml" <:+ deviceFile protocol name := List.suffix_append _ _

theorem not_both_suffixes {file : PyStr} (h : lit ".yaml" <:+ file) : ¬ lit ".yml" <:+ file := by
  intro h'
  have hshort : lit ".yml" <:+ lit ".yaml" := List.suffix_of_suffix_length_le h' h (by decide)
  exact absurd hshort (by decide)

theorem not_isExample (h : validateName raw = .ok name) :
    isExample (deviceFile protocol name) = false := by
  have hdot : (46 : Nat) ∉ lit protocol.filePrefix ++ lit "-" ++ name := by
    intro hmem
    rcases List.mem_append.mp hmem with hmem | hmem
    · cases protocol <;> exact absurd hmem (by decide)
    · exact absurd ((validateName_eq_ok h).2.2 46 hmem) (by decide)
  have hyml : ¬ lit ".example.yml" <:+ deviceFile protocol name := by
    intro hsuffix
    have hend : lit ".yml" <:+ lit ".example.yml" := by decide
    exact not_both_suffixes (suffix_deviceFile protocol name) (hend.trans hsuffix)
  have hyaml : ¬ lit ".example.yaml" <:+ deviceFile protocol name := by
    intro hsuffix
    obtain ⟨u, hu⟩ := hsuffix
    have hsplit : lit ".example.yaml" = lit ".example" ++ lit ".yaml" := rfl
    rw [hsplit, ← List.append_assoc] at hu
    have hstem : u ++ lit ".example" = lit protocol.filePrefix ++ lit "-" ++ name :=
      List.append_cancel_right hu
    rw [← hstem] at hdot
    exact hdot (List.mem_append_right _ (by decide))
  unfold isExample
  rw [decide_eq_false hyaml, decide_eq_false hyml]
  rfl

end ValidName

end EdgeSensor.Console
