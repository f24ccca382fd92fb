import SitePlan.Proofs.Document

/-!
# Hardware records read back

The properties of a record carry no word that says what kind they are, so reading tries the kinds
in order. Each kind has a field that must be there and that no later kind writes, so no kind is
taken for an earlier one, whatever else is left out.
-/

namespace SitePlan.Hardware

open Document

variable {δ : Type} [Document δ]

/-! ### Nodes -/

/-- Properties of a node are written as a record. -/
theorem NodeProperties.isRecord (p : NodeProperties) : IsRecord p.toJson :=
  isRecord_object
    (names_append (names_append (names_append
      (names_optional "NID" p.nid fun n => .natural n.toNat)
      (List.Sublist.refl ["Role"]))
      (names_optional "SubRole" p.subRole .string))
      (names_nonemptyList "Aliases" p.aliases .string))
    (by decide)

/-- Properties of a node are recovered. -/
theorem NodeProperties.recovers (p : NodeProperties) : Recovers (δ := δ) read? p.toJson p := by
  intro d hd
  obtain ⟨r, hr, hfields⟩ := exists_record? hd p.isRecord ["NID", "Role", "SubRole", "Aliases"]
  have hnid : r.optional? "NID" uint64? = some p.nid :=
    hfields.optional? (by decide) (by simp [toJson, textsToJson]) recovers_uint64
  have hrole : r.required? "Role" Role.read? = some p.role :=
    hfields.required? (by decide) (by simp [toJson, textsToJson])
      (recovers_word p.role.ofName?_name)
  have hsubRole : r.optional? "SubRole" text? = some p.subRole :=
    hfields.optional? (by decide) (by simp [toJson, textsToJson]) recovers_text
  have haliases : r.withDefault? "Aliases" [] (list? text?) = some p.aliases :=
    hfields.defaultList? (by decide) (by simp [toJson, textsToJson])
      fun name _ => recovers_text name
  simp [read?, hr, hnid, hrole, hsubRole, haliases]

/-- What has no role is no node. -/
theorem NodeProperties.read?_eq_none {d : δ} {written : Json} (hd : Shows d written)
    (hwritten : IsRecord written) (hrole : field? "Role" written = none) : read? d = none := by
  obtain ⟨r, hr, hfields⟩ := exists_record? hd hwritten ["NID", "Role", "SubRole", "Aliases"]
  have hmissing : r.required? "Role" Role.read? = none :=
    hfields.required?_eq_none (by decide) hrole
  simp [read?, hr, hmissing]

/-! ### Connectors -/

/-- Properties of a connector are written as a record. -/
theorem ConnectorProperties.isRecord (p : ConnectorProperties) : IsRecord p.toJson :=
  isRecord_object (List.Sublist.refl ["NodeNics", "VendorName"]) (by decide)

/-- Properties of a connector are recovered. -/
theorem ConnectorProperties.recovers (p : ConnectorProperties) :
    Recovers (δ := δ) read? p.toJson p := by
  intro d hd
  obtain ⟨r, hr, hfields⟩ := exists_record? hd p.isRecord ["NodeNics", "VendorName"]
  have hnodeNics : r.required? "NodeNics" (list? text?) = some p.nodeNics :=
    hfields.required? (by decide) rfl (recovers_texts p.nodeNics)
  have hvendorName : r.required? "VendorName" text? = some p.vendorName :=
    hfields.requiredText? (by decide) rfl
  simp [read?, hr, hnodeNics, hvendorName]

/-- What leads to nothing is no connector. -/
theorem ConnectorProperties.read?_eq_none {d : δ} {written : Json} (hd : Shows d written)
    (hwritten : IsRecord written) (hnodeNics : field? "NodeNics" written = none) :
    read? d = none := by
  obtain ⟨r, hr, hfields⟩ := exists_record? hd hwritten ["NodeNics", "VendorName"]
  have hmissing : r.required? "NodeNics" (list? text?) = none :=
    hfields.required?_eq_none (by decide) hnodeNics
  simp [read?, hr, hmissing]

/-! ### Switches -/

/-- The fields of a switch's properties, as a switch is read. -/
def SwitchProperties.fieldNames : List String :=
  ["IP4addr", "Brand", "Model", "SNMPUsername", "SNMPAuthPassword", "SNMPAuthProtocol",
    "SNMPPrivPassword", "SNMPPrivProtocol", "Aliases"]

/-- The credentials of a switch are written where there are any. -/
theorem SwitchProperties.toJson_eq (p : SwitchProperties) :
    p.toJson = .object (
      Json.optional "IP4addr" p.ip4Address .string ++
      [("Brand", .string p.brand)] ++
      Json.optional "Model" p.model .string ++
      p.snmp.elim [] SnmpCredentials.fields ++
      textsToJson "Aliases" p.aliases) := by
  rw [toJson]
  cases p.snmp <;> rfl

/-- Properties of a switch are written as a record. -/
theorem SwitchProperties.isRecord (p : SwitchProperties) : IsRecord p.toJson := by
  have hsnmp : ((p.snmp.elim [] SnmpCredentials.fields).map Prod.fst).Sublist ["SNMPUsername",
      "SNMPAuthPassword", "SNMPAuthProtocol", "SNMPPrivPassword", "SNMPPrivProtocol"] := by
    cases p.snmp with
    | none => exact List.nil_sublist _
    | some c => exact List.Sublist.refl _
  rw [toJson_eq]
  exact isRecord_object
    (names_append (names_append (names_append (names_append
      (names_optional "IP4addr" p.ip4Address .string)
      (List.Sublist.refl ["Brand"]))
      (names_optional "Model" p.model .string))
      hsnmp)
      (names_nonemptyList "Aliases" p.aliases .string))
    (by decide)

/-- A credential is found where there are credentials. -/
@[simp] theorem field?_credentials (name : String) (snmp : Option SnmpCredentials) :
    field? name (.object (snmp.elim [] SnmpCredentials.fields)) =
      snmp.bind fun c => field? name (.object c.fields) := by
  cases snmp <;> rfl

/-- Credentials are found among the fields of a switch that has them, and only there. -/
theorem SnmpCredentials.read?_of_showsFields {r : Document.Record δ} {p : SwitchProperties}
    (hfields : r.ShowsFields SwitchProperties.fieldNames p.toJson) :
    SnmpCredentials.read? r = p.snmp := by
  rw [SwitchProperties.toJson_eq] at hfields
  cases hsnmp : p.snmp with
  | none =>
    have hmissing : r.required? "SNMPUsername" text? = none :=
      hfields.required?_eq_none (by decide) (by simp [textsToJson, hsnmp])
    simp [read?, hmissing]
  | some c =>
    have husername : r.required? "SNMPUsername" text? = some c.username :=
      hfields.requiredText? (by decide) (by simp [hsnmp, fields])
    have hauthPassword : r.required? "SNMPAuthPassword" text? = some c.authPassword :=
      hfields.requiredText? (by decide) (by simp [hsnmp, fields])
    have hauthProtocol : r.required? "SNMPAuthProtocol" text? = some c.authProtocol :=
      hfields.requiredText? (by decide) (by simp [hsnmp, fields])
    have hprivPassword : r.required? "SNMPPrivPassword" text? = some c.privPassword :=
      hfields.requiredText? (by decide) (by simp [hsnmp, fields])
    have hprivProtocol : r.required? "SNMPPrivProtocol" text? = some c.privProtocol :=
      hfields.requiredText? (by decide) (by simp [hsnmp, fields])
    simp [read?, husername, hauthPassword, hauthProtocol, hprivPassword, hprivProtocol]

/-- Properties of a switch are recovered. -/
theorem SwitchProperties.recovers (p : SwitchProperties) :
    Recovers (δ := δ) read? p.toJson p := by
  intro d hd
  obtain ⟨r, hr, hfields⟩ := exists_record? hd p.isRecord fieldNames
  obtain ⟨ds, hds⟩ : ∃ ds, fields? d = some ds := by
    cases hd with
    | object _ reads _ _ => exact ⟨_, reads⟩
  have hsnmp : SnmpCredentials.read? r = p.snmp := SnmpCredentials.read?_of_showsFields hfields
  rw [toJson_eq] at hfields
  have hip4Address : r.optional? "IP4addr" text? = some p.ip4Address :=
    hfields.optional? (by decide) (by simp [textsToJson, SnmpCredentials.fields]) recovers_text
  have hbrand : r.required? "Brand" text? = some p.brand :=
    hfields.requiredText? (by decide) (by simp)
  have hmodel : r.optional? "Model" text? = some p.model :=
    hfields.optional? (by decide) (by simp [textsToJson, SnmpCredentials.fields]) recovers_text
  have haliases : r.withDefault? "Aliases" [] (list? text?) = some p.aliases :=
    hfields.defaultList? (by decide) (by simp [textsToJson, SnmpCredentials.fields])
      fun name _ => recovers_text name
  rw [fieldNames] at hr
  simp [read?, hds, hr, hip4Address, hbrand, hmodel, hsnmp, haliases]

/-- What has no brand is no switch. -/
theorem SwitchProperties.read?_eq_none {d : δ} {written : Json} (hd : Shows d written)
    (hwritten : IsRecord written) (hbrand : field? "Brand" written = none) : read? d = none := by
  obtain ⟨r, hr, hfields⟩ := exists_record? hd hwritten fieldNames
  have hmissing : r.required? "Brand" text? = none :=
    hfields.required?_eq_none (by decide) hbrand
  rw [fieldNames] at hr
  simp [read?, hr, hmissing]

/-! ### Router controllers -/

/-- Properties of a router controller are written as a record. -/
theorem RouterBmcProperties.isRecord (p : RouterBmcProperties) : IsRecord p.toJson :=
  isRecord_object (List.Sublist.refl ["Username", "Password"]) (by decide)

/-- Properties of a router controller are recovered. -/
theorem RouterBmcProperties.recovers (p : RouterBmcProperties) :
    Recovers (δ := δ) read? p.toJson p := by
  intro d hd
  obtain ⟨r, hr, hfields⟩ := exists_record? hd p.isRecord ["Username", "Password"]
  have husername : r.required? "Username" text? = some p.username :=
    hfields.requiredText? (by decide) rfl
  have hpassword : r.required? "Password" text? = some p.password :=
    hfields.requiredText? (by decide) rfl
  simp [read?, hr, husername, hpassword]

/-- What has no user is no router controller. -/
theorem RouterBmcProperties.read?_eq_none {d : δ} {written : Json} (hd : Shows d written)
    (hwritten : IsRecord written) (husername : field? "Username" written = none) :
    read? d = none := by
  obtain ⟨r, hr, hfields⟩ := exists_record? hd hwritten ["Username", "Password"]
  have hmissing : r.required? "Username" text? = none :=
    hfields.required?_eq_none (by decide) husername
  simp [read?, hr, hmissing]

/-! ### Cabinets -/

/-- A cabinet's network is recovered. -/
theorem CabinetNetwork.recovers (n : CabinetNetwork) : Recovers (δ := δ) read? n.toJson n := by
  intro d hd
  have hrecord : IsRecord n.toJson :=
    isRecord_object (List.Sublist.refl ["CIDR", "Gateway", "VLan"]) (by decide)
  obtain ⟨r, hr, hfields⟩ := exists_record? hd hrecord ["CIDR", "Gateway", "VLan"]
  have hcidr : r.required? "CIDR" text? = some n.cidr :=
    hfields.requiredText? (by decide) rfl
  have hgateway : r.required? "Gateway" text? = some n.gateway :=
    hfields.requiredText? (by decide) rfl
  have hvlan : r.required? "VLan" uint16? = some n.vlan :=
    hfields.required? (by decide) rfl (recovers_uint16 n.vlan)
  simp [read?, hr, hcidr, hgateway, hvlan]

/-- Properties of a cabinet are written as a record. -/
theorem CabinetProperties.isRecord (p : CabinetProperties) : IsRecord p.toJson :=
  isRecord_object
    (names_append (List.Sublist.refl ["Networks"]) (names_optional "Model" p.model .string))
    (by decide)

/-- Properties of a cabinet are recovered. -/
theorem CabinetProperties.recovers (p : CabinetProperties) :
    Recovers (δ := δ) read? p.toJson p := by
  intro d hd
  obtain ⟨r, hr, hfields⟩ := exists_record? hd p.isRecord ["Networks", "Model"]
  have hfamily : ∀ family ∈ p.networks.values, Recovers (δ := δ) (map? CabinetNetwork.read?)
      (mapToJson CabinetNetwork.toJson family) family :=
    fun family _ => recovers_sameMap fun n _ => CabinetNetwork.recovers n
  have hnetworks : r.required? "Networks" (map? (map? CabinetNetwork.read?)) =
      some p.networks :=
    hfields.required? (by decide) rfl (recovers_sameMap hfamily)
  have hmodel : r.optional? "Model" text? = some p.model :=
    hfields.optional? (by decide) (by simp [toJson]) recovers_text
  simp [read?, hr, hnetworks, hmodel]

/-! ### Records -/

/-- Properties of any kind are recovered, as properties of that kind. -/
theorem Properties.recovers (p : Properties) : Recovers (δ := δ) read? p.toJson p := by
  intro d hd
  cases p with
  | node p => simp [read?, p.recovers d hd]
  | connector p =>
    have hnode : NodeProperties.read? d = none :=
      NodeProperties.read?_eq_none hd p.isRecord rfl
    simp [read?, hnode, p.recovers d hd]
  | mgmtSwitch p =>
    have hnode : NodeProperties.read? d = none :=
      NodeProperties.read?_eq_none hd p.isRecord
        (by simp [toJson, SwitchProperties.toJson_eq, textsToJson, SnmpCredentials.fields])
    have hconnector : ConnectorProperties.read? d = none :=
      ConnectorProperties.read?_eq_none hd p.isRecord
        (by simp [toJson, SwitchProperties.toJson_eq, textsToJson, SnmpCredentials.fields])
    simp [read?, hnode, hconnector, p.recovers d hd]
  | routerBmc p =>
    have hnode : NodeProperties.read? d = none :=
      NodeProperties.read?_eq_none hd p.isRecord rfl
    have hconnector : ConnectorProperties.read? d = none :=
      ConnectorProperties.read?_eq_none hd p.isRecord rfl
    have hswitch : SwitchProperties.read? d = none :=
      SwitchProperties.read?_eq_none hd p.isRecord rfl
    simp [read?, hnode, hconnector, hswitch, p.recovers d hd]
  | cabinet p =>
    have hnode : NodeProperties.read? d = none :=
      NodeProperties.read?_eq_none hd p.isRecord (by simp [toJson, CabinetProperties.toJson])
    have hconnector : ConnectorProperties.read? d = none :=
      ConnectorProperties.read?_eq_none hd p.isRecord (by simp [toJson, CabinetProperties.toJson])
    have hswitch : SwitchProperties.read? d = none :=
      SwitchProperties.read?_eq_none hd p.isRecord (by simp [toJson, CabinetProperties.toJson])
    have hrouter : RouterBmcProperties.read? d = none :=
      RouterBmcProperties.read?_eq_none hd p.isRecord (by simp [toJson, CabinetProperties.toJson])
    simp [read?, hnode, hconnector, hswitch, hrouter, p.recovers d hd]

/-- Properties are made of texts, numbers, lists and objects. -/
theorem Properties.plain (p : Properties) : p.toJson.Plain := by
  cases p with
  | node p => simp [toJson, NodeProperties.toJson, textsToJson]
  | connector p => simp [toJson, ConnectorProperties.toJson]
  | mgmtSwitch p =>
    cases hsnmp : p.snmp <;>
      simp [toJson, SwitchProperties.toJson_eq, hsnmp, SnmpCredentials.fields, textsToJson]
  | routerBmc p => simp [toJson, RouterBmcProperties.toJson]
  | cabinet p => simp [toJson, CabinetProperties.toJson, CabinetNetwork.toJson]

/-- A hardware record is written as a record. -/
theorem Record.isRecord (record : Record) : IsRecord record.toJson :=
  isRecord_object
    (names_append (List.Sublist.refl ["Parent", "Xname", "Type", "Class", "TypeString"])
      (names_optional "ExtraProperties" record.properties Properties.toJson))
    (by decide)

/-- A hardware record is recovered. -/
theorem Record.recovers (record : Record) : Recovers (δ := δ) read? record.toJson record := by
  intro d hd
  obtain ⟨r, hr, hfields⟩ := exists_record? hd record.isRecord
    ["Parent", "Xname", "Type", "Class", "TypeString", "ExtraProperties"]
  have hparent : r.required? "Parent" text? = some record.parent :=
    hfields.requiredText? (by decide) rfl
  have hxname : r.required? "Xname" text? = some record.xname :=
    hfields.requiredText? (by decide) rfl
  have htag : r.required? "Type" Tag.read? = some record.tag :=
    hfields.required? (by decide) rfl (recovers_word record.tag.ofWord?_word)
  have hclass : r.required? "Class" Class.read? = some record.hardwareClass :=
    hfields.required? (by decide) rfl (recovers_word record.hardwareClass.ofName?_name)
  have hkind : r.required? "TypeString" kindRead? = some record.kind :=
    hfields.required? (by decide) rfl (recovers_word (kindOfWord?_kindWord record.kind))
  have hproperties : r.optional? "ExtraProperties" Properties.read? = some record.properties :=
    hfields.optional? (by decide) (by simp [toJson]) Properties.recovers
  simp [read?, hr, hparent, hxname, htag, hclass, hkind, hproperties]

/-- A hardware record is made of texts, numbers, lists and objects. -/
theorem Record.plain (record : Record) : record.toJson.Plain := by
  simp [toJson, Properties.plain]

end SitePlan.Hardware
