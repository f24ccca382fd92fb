import SitePlan.Layout.Basic

/-!
# The standard networks of a system

Every system has the same eleven networks. Three choices are left to the site: whether
the older networks are widened into supernets, how large the subnets of cabinets are,
and how many addresses are kept for switches to come.
-/

namespace SitePlan.Layout

/-- What a site chooses about its networks. -/
structure Options where
  /-- Subnets of the older networks take over the network's mask and gateway. -/
  supernet : Bool := false
  /-- The size of the subnets of cabinets. -/
  cabinetBits : Nat := 22
  /-- How many addresses to keep for switches to come. -/
  spareSwitches : Nat := 0
  deriving DecidableEq

/-- A network of the usual frame size without subnets. -/
def emptyNetwork (name fullName : String) (cidr : Cidr) (vlanRange : VlanRange)
    (fabric : Network.Fabric := .ethernet) : Network :=
  .create name fullName cidr vlanRange 9000 fabric

/-- The node management network. -/
def nmn : Network :=
  emptyNetwork "NMN" "Node Management Network" (.ofOctets 10 252 0 0 17) (.single 2)

/-- The hardware management network. -/
def hmn : Network :=
  emptyNetwork "HMN" "Hardware Management Network" (.ofOctets 10 254 0 0 17) (.single 4)

/-- The node management network of compute racks. -/
def nmnRiver : Network :=
  emptyNetwork "NMN_RVR" "River Compute Node Management Network" (.ofOctets 10 106 0 0 17)
    ⟨1770, 1999⟩

/-- The hardware management network of compute racks. -/
def hmnRiver : Network :=
  emptyNetwork "HMN_RVR" "River Compute Hardware Management Network"
    (.ofOctets 10 107 0 0 17) ⟨1513, 1769⟩

/-- The node management network of liquid-cooled cabinets. -/
def nmnMountain : Network :=
  emptyNetwork "NMN_MTN" "Mountain Compute Node Management Network"
    (.ofOctets 10 100 0 0 17) ⟨2000, 2999⟩

/-- The hardware management network of liquid-cooled cabinets. -/
def hmnMountain : Network :=
  emptyNetwork "HMN_MTN" "Mountain Compute Hardware Management Network"
    (.ofOctets 10 104 0 0 17) ⟨3000, 3999⟩

/-- The customer access network. -/
def can : Network :=
  emptyNetwork "CAN" "Customer Access Network" (.ofOctets 10 102 11 0 24) (.single 7)

/-- The provisioning network. -/
def mtl : Network :=
  emptyNetwork "MTL" "Provisioning Network (untagged)" (.ofOctets 10 1 0 0 16) (.single 0)

/-- The high-speed network. -/
def hsn : Network :=
  emptyNetwork "HSN" "High Speed Network" (.ofOctets 10 253 0 0 16) ⟨613, 868⟩ .slingshot10

/-- The load balancers of the node management network. -/
def nmnBalancers : Network :=
  emptyNetwork "NMNLB" "Node Management Network LoadBalancers" (.ofOctets 10 92 100 0 24)
    (.single 2)

/-- The load balancers of the hardware management network. -/
def hmnBalancers : Network :=
  emptyNetwork "HMNLB" "Hardware Management Network LoadBalancers"
    (.ofOctets 10 94 100 0 24) (.single 4)

/-- The standard networks before anything is carved. -/
def standardNetworks : List Network :=
  [nmn, hmn, nmnRiver, hmnRiver, nmnMountain, hmnMountain, can, mtl, hsn, nmnBalancers,
    hmnBalancers]

/-- The cabinets of compute racks: those declared so, and those with air cooling among
the EX2500. -/
def riverCabinets : Cabinet.Filter :=
  .or (.ofKind "river") .ex2500AirCooled

/-- The cabinets with liquid cooling. -/
def liquidCooledCabinets : Cabinet.Filter :=
  .or (.ofClass .hill) (.ofClass .mountain)

/-- A network in which machines start and switches have addresses. -/
def management (template : Network) (options : Options) : Layout where
  template := template
  bootstrapBits := some 24
  reservesNodes := true
  hardwareBits := some 24
  spareSwitches := options.spareSwitches
  supernet := options.supernet

/-- A network that is divided among cabinets. -/
def perCabinet (template : Network) (accepts : Cabinet.Filter)
    (overrides : Network.Overrides) (options : Options) : Layout where
  template := template
  cabinetSubdivision := some ⟨options.cabinetBits, accepts, some overrides⟩

/-- A network that one subnet fills. -/
def filled (template : Network) (base : BaseSubnet) : Layout where
  template := template
  baseSubnet := some base

/-- The layouts of the standard networks. -/
def standard (options : Options) : List Layout :=
  [{ management nmn options with
      pins := [⟨"kubeapi-vip", "k8s-virtual-ip", 2⟩, ⟨"rgw-vip", "rgw-virtual-ip", 3⟩]
      uaiBits := some 24 },
    management hmn options,
    perCabinet nmnRiver riverCabinets .nmn options,
    perCabinet hmnRiver riverCabinets .hmn options,
    perCabinet nmnMountain liquidCooledCabinets .nmn options,
    perCabinet hmnMountain liquidCooledCabinets .hmn options,
    { template := can
      bootstrapBits := some 26
      pins := [⟨"can-switch-1", "", 2⟩, ⟨"can-switch-2", "", 3⟩]
      reservesNodes := true
      hasPools := true
      supernet := options.supernet },
    management mtl options,
    filled hsn { name := "hsn_base_subnet", fullName := "HSN Base Subnet", bits := 16 },
    filled nmnBalancers {
      name := "nmn_metallb_address_pool"
      fullName := "NMN MetalLB"
      bits := 24
      poolName := some "node-management" },
    filled hmnBalancers {
      name := "hmn_metallb_address_pool"
      fullName := "HMN MetalLB"
      bits := 24
      poolName := some "hardware-management" }]

end SitePlan.Layout
