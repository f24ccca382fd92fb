import SitePlan.Proofs.Synthesis.RowPieces

/-!
# Devices and their connectors

The records of a row are that of its device and, behind it, that of the switch connector that
the device is cabled to. A cable ends at the controller of a node and else at the device
itself, so cables that end at one place are plugged into one device.
-/

namespace SitePlan.Synthesis

open Cabling Hardware Outcome Xname

/-! ### Devices -/

/-- The places of the devices of rows, and where their cables end: nodes are cabled by their
controllers, which are not those of enclosures. -/
inductive CableEnd : Component → Component → Prop
  | router (rack height bmc : UInt32) :
      CableEnd (.routerBmc rack 0 height bmc) (.routerBmc rack 0 height bmc)
  | pdu (rack controller : UInt32) :
      CableEnd (.cabinetPduController rack controller) (.cabinetPduController rack controller)
  | enclosure (rack height : UInt32) :
      CableEnd (.nodeBmc rack 0 height enclosureController)
        (.nodeBmc rack 0 height enclosureController)
  | node (rack slot bmc : UInt32) (single : bmc ≠ enclosureController) :
      CableEnd (.node rack 0 slot bmc 0) (.nodeBmc rack 0 slot bmc)

/-- No two devices have cables that end at one place. -/
theorem CableEnd.device_eq {device device' place : Component} (h : CableEnd device place)
    (h' : CableEnd device' place) : device = device' := by
  cases h with
  | router => cases h'; rfl
  | pdu => cases h'; rfl
  | enclosure =>
    cases h' with
    | enclosure => rfl
    | node _ _ _ single => exact absurd rfl single
  | node _ _ _ single =>
    cases h' with
    | enclosure => exact absurd rfl single
    | node => rfl

/-- The record is of the device of a row. -/
structure IsDevice (r : Record) : Prop where
  /-- The device and the end of its cable have their places. -/
  place : ∃ device place, CableEnd device place ∧ r.xname = device.toXname ∧
    cabledNic r = place.toXname
  /-- The device is no connector. -/
  kind : r.kind ≠ some .mgmtSwitchConnector

/-- A record of a component that is no node is cabled by itself. -/
theorem isDevice_record {component : Component} {hardwareClass : Hardware.Class}
    {properties : Option Properties} {r : Record} (hend : CableEnd component component)
    (hnode : component.kind ≠ .node) (hconnector : component.kind ≠ .mgmtSwitchConnector)
    (hok : record component hardwareClass properties = .ok r) : IsDevice r where
  place := by
    have hkind := kind_record hok
    have hnic : cabledNic r = r.xname := by
      rw [cabledNic, if_neg (by simpa [hkind] using hnode)]
    exact ⟨component, component, hend, (record_spec hok).1, hnic.trans (record_spec hok).1⟩
  kind := by simpa [kind_record hok] using hconnector

/-- Halves of an enclosure have small controller numbers. -/
theorem bmcOrdinal_ne (side : Option Side) : bmcOrdinal side ≠ enclosureController := by
  match side with
  | none | some .left | some .right => decide

/-- The nodes in an enclosure have small controller numbers. -/
theorem enclosureBmc_ne {row : Row} {nid : Option UInt64} {bmc : UInt32}
    (hok : enclosureBmc row nid = .ok bmc) : bmc ≠ enclosureController := by
  cases nid with
  | none =>
    obtain rfl := Except.ok.inj hok
    exact bmcOrdinal_ne _
  | some number =>
    obtain ⟨_, hbmc⟩ := enclosureBmc_eq_ok_of_some hok
    have hcontroller : enclosureController.toNat = 999 := rfl
    rintro rfl
    omega

/-- Nodes have other controllers than enclosures. -/
theorem nodePlace_ne {ctx : RackContext} {row : Row} {nid : Option UInt64}
    {slot bmc : UInt32} (hok : nodePlace ctx row nid = .ok (slot, bmc)) :
    bmc ≠ enclosureController := by
  unfold nodePlace at hok
  split at hok
  · obtain ⟨found, hfound, hok⟩ := bind_eq_ok.mp hok
    obtain ⟨_, rfl⟩ := Prod.mk.injEq .. ▸ pure_eq_ok.mp hok
    exact enclosureBmc_ne hfound
  · obtain ⟨position, _, hok⟩ := bind_eq_ok.mp hok
    obtain ⟨_, rfl⟩ := Prod.mk.injEq .. ▸ pure_eq_ok.mp hok
    exact bmcOrdinal_ne _

/-- The record that is made for a row's device is that of a device. -/
theorem MakesDevice.isDevice {ctx : RackContext} {row : Row} {rack : UInt32} {nid : UInt64}
    {device : Device} {r : Record} (hmade : MakesDevice ctx row rack nid device r) :
    IsDevice r := by
  cases hmade with
  | router stands made =>
    subst stands
    exact isDevice_record (.router ..) (by simp [Component.kind]) (by simp [Component.kind]) made
  | pdu made =>
    exact isDevice_record (.pdu ..) (by simp [Component.kind]) (by simp [Component.kind]) made
  | @enclosure _ position _ _ _ made =>
    -- the controller of an enclosure is recorded as another kind than that of its location
    obtain ⟨hxname, _⟩ := createAs_spec made
    obtain ⟨_, hkind⟩ := createAs_origin made
    have hnic : cabledNic r = r.xname := by rw [cabledNic, if_neg (by simp [hkind])]
    exact ⟨⟨_, _, .enclosure rack position.height, hxname, hnic.trans hxname⟩, by simp [hkind]⟩
  | @node _ _ slot bmc _ _ _ _ lies stands made =>
    subst stands
    have hkind : r.kind = some .node := kind_record made
    have hnic : cabledNic r = r.parent := by rw [cabledNic, if_pos hkind]
    exact ⟨⟨_, _, .node rack slot bmc (nodePlace_ne lies), (record_spec made).1,
      hnic.trans (parent_record made rfl)⟩, by simp [hkind]⟩

/-! ### Connectors -/

/-- The record is of a connector of a listed switch, and its cable leads to this end. -/
def IsConnector (switches : SortedMap Switch) (nic : String) (c : Record) : Prop :=
  ∃ rack slot number s vendorName,
    switches.get? (Component.mgmtSwitch rack 0 slot).toXname = some s ∧
    connectorName? s.brand number = some vendorName ∧
    c.xname = (Component.mgmtSwitchConnector rack 0 slot number).toXname ∧
    c.parent = (Component.mgmtSwitch rack 0 slot).toXname ∧
    c.properties = some (.connector ⟨[nic], vendorName⟩)

/-- A connector lists the end of its cable only. -/
theorem IsConnector.nodeNics_eq {switches : SortedMap Switch} {nic : String} {c : Record}
    (hc : IsConnector switches nic c) {p : ConnectorProperties}
    (hp : c.properties = some (.connector p)) : p.nodeNics = [nic] := by
  obtain ⟨_, _, _, _, _, _, _, _, _, hlisted⟩ := hc
  obtain rfl := Properties.connector.inj (Option.some.inj (hp.symm.trans hlisted))
  rfl

/-- The record of the connector that a row is cabled to is that of a connector. -/
theorem isConnector_connectorRecord {ctx : RackContext} {row : Row} {nic : String} {c : Record}
    (hok : connectorRecord ctx row nic = .ok c) : IsConnector ctx.switches nic c := by
  obtain ⟨rack, slot, number, s, vendorName, hswitch, hvendor, hmade⟩ :=
    exists_of_connectorRecord hok
  obtain ⟨hxname, _, hproperties⟩ := record_spec hmade
  exact ⟨rack, slot, number, s, vendorName, hswitch, hvendor, hxname, parent_record hmade rfl,
    hproperties⟩

/-- The record of a device, with that of the connector which it is cabled to. -/
structure IsCabled (switches : SortedMap Switch) (cabled : Record × Option Record) : Prop where
  /-- The first record is that of a device. -/
  device : IsDevice cabled.1
  /-- The second one is that of a connector, and its cable leads to the device. -/
  connector : ∀ c ∈ cabled.2, IsConnector switches (cabledNic cabled.1) c

/-- The records of devices and of their connectors. -/
def cabledRecords (cabled : List (Record × Option Record)) : List Record :=
  cabled.flatMap fun pair => pair.1 :: pair.2.toList

/-- The records that are made of a row are those of a device and its connector. -/
theorem MakesPiece.cabled {ctx : RackContext} {row : Row} {nid : UInt64} {piece : List Record}
    (hpiece : MakesPiece ctx nid row piece) :
    ∃ cabled, piece = cabledRecords cabled ∧ ∀ pair ∈ cabled, IsCabled ctx.switches pair := by
  cases hpiece with
  | skipped => exact ⟨[], rfl, by simp⟩
  | @recorded _ _ r connector _ _ _ made _ connected =>
    have hcabled : IsCabled ctx.switches (r, connector) :=
      ⟨made.isDevice, fun c hc => isConnector_connectorRecord (connected c hc)⟩
    exact ⟨[(r, connector)], by simp [cabledRecords], List.forall_mem_singleton.mpr hcabled⟩

/-- The records of rows are those of devices and their connectors. -/
theorem flatten_cabled {ctx : RackContext} {rows : List Row} {pieces : List (List Record)}
    (hmade : List.Forall₂ (fun row piece => ∃ nid, MakesPiece ctx nid row piece) rows pieces) :
    ∃ cabled, pieces.flatten = cabledRecords cabled ∧
      ∀ pair ∈ cabled, IsCabled ctx.switches pair := by
  induction hmade with
  | nil => exact ⟨[], rfl, by simp⟩
  | cons hpiece _ ih =>
    obtain ⟨nid, hpiece⟩ := hpiece
    obtain ⟨cabled, rfl, hcabled⟩ := hpiece.cabled
    obtain ⟨others, hflatten, hothers⟩ := ih
    refine ⟨cabled ++ others, ?_, List.forall_mem_append.mpr ⟨hcabled, hothers⟩⟩
    rw [List.flatten_cons, hflatten]
    simp [cabledRecords]

/-- The records of racks are those of devices and of the connectors of listed switches. -/
theorem rackHardware_cabled {inputs : Inputs} {nids later : Nids} {rows : List Row}
    {records : List Record} (hok : rackHardware inputs nids rows = (.ok records, later)) :
    ∃ cabled, records = cabledRecords cabled ∧
      ∀ pair ∈ cabled, IsCabled (switchesByLocation inputs.switches) pair := by
  have hflat := rackHardware_eq_flatten inputs nids rows
  rw [hok] at hflat
  obtain ⟨pieces, hpieces, rfl⟩ := map_eq_ok.mp hflat.symm
  obtain ⟨ctx, _, hswitches, _, hmade⟩ := rackPieces_spec hpieces
  rw [← hswitches]
  exact flatten_cabled hmade

end SitePlan.Synthesis
