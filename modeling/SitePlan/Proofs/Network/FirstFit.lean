import SitePlan.Proofs.Network.ChosenBlocks

/-!
# First fit

The sweep over the stretches in use goes back to none of the places that it left, so it must not
leave a place where a block would fit. It leaves a place only because of a stretch that a block
there would touch, and so would a block at any other place before the next one. So the search
finds a block whenever there is one, and it finds the lowest.
-/

namespace SitePlan.Network

/-! ### The sweep -/

/-- Rounding up gives the first multiple that is not below the number. -/
theorem alignUp_le {n size place : Nat} (hdvd : size ∣ place) (hle : n ≤ place) :
    alignUp n size ≤ place := by
  obtain ⟨k, rfl⟩ := hdvd
  rcases Nat.eq_zero_or_pos size with rfl | hsize
  · simp [alignUp]
  have hbelow : n + size - 1 < size * (k + 1) := by
    rw [Nat.mul_add, Nat.mul_one]
    omega
  have hk : (n + size - 1) / size < k + 1 := Nat.div_lt_of_lt_mul hbelow
  rw [alignUp, Nat.mul_comm]
  exact Nat.mul_le_mul_left size (Nat.le_of_lt_succ hk)

/-- The sweep leaves no aligned place behind at which a block touches none of the stretches. -/
theorem sweep_le {size candidate place : Nat} {used : List Stretch} (hdvd : size ∣ place)
    (hplace : candidate ≤ place)
    (hclear : ∀ u ∈ used, u.last < place ∨ place + size - 1 < u.first) :
    sweep size candidate used ≤ place := by
  fun_induction sweep size candidate used with
  | case1 => exact hplace
  | case2 _ _ _ _ ih => exact ih hplace (List.forall_mem_cons.mp hclear).2
  | case3 => exact hplace
  | case4 candidate used rest _ hreached ih =>
    obtain ⟨hused, hrest⟩ := List.forall_mem_cons.mp hclear
    -- A block at the place would touch the stretch that is skipped unless it lies behind it.
    have hbehind : used.last + 1 ≤ place := by omega
    exact ih (alignUp_le hdvd hbehind) hrest

/-- The stretches in use in the order in which the search for a block goes through them. -/
def usedStretches (n : Network) (further : List Stretch) : List Stretch :=
  sortBy stretchLe (n.subnets.map (fun s => s.cidr.stretch) ++ further)

/-- The place at which the search for a block stands after so many of the stretches in use. -/
def placeAfter (n : Network) (bits : Nat) (further : List Stretch) (count : Nat) : Nat :=
  sweep (Cidr.sizeOf bits) (alignUp n.cidr.first (Cidr.sizeOf bits))
    ((n.usedStretches further).take count)

/-- The search for a block leaves no aligned place of the network behind at which a block of the
size touches none of the stretches in use. -/
theorem placeAfter_le {n : Network} {bits place : Nat} {further : List Stretch}
    (hdvd : Cidr.sizeOf bits ∣ place) (hfirst : n.cidr.first ≤ place)
    (hclear : ∀ u ∈ n.subnets.map (fun s => s.cidr.stretch) ++ further,
      u.last < place ∨ place + Cidr.sizeOf bits - 1 < u.first) (count : Nat) :
    n.placeAfter bits further count ≤ place :=
  sweep_le hdvd (alignUp_le hdvd hfirst) fun u hu =>
    hclear u ((sortBy_perm _ _).mem_iff.mp (List.mem_of_mem_take hu))

/-- The search for a block comes to no place behind the last address but the one next to it, so
none of its numbers is beyond twice the number of addresses. -/
theorem placeAfter_add_sizeOf_le (n : Network) (bits : Nat) {further : List Stretch}
    (hfurther : ∀ u ∈ further, u.last < 0x100000000) (count : Nat) :
    n.placeAfter bits further count + Cidr.sizeOf bits ≤ 0x200000000 := by
  have hdvd := Cidr.sizeOf_dvd bits
  have hsize : Cidr.sizeOf bits ≤ 0x100000000 := Nat.le_of_dvd (by decide) hdvd
  have hfirst : n.cidr.first ≤ 0x100000000 :=
    Nat.le_of_lt (Nat.lt_of_le_of_lt n.cidr.first_le_last n.cidr.last_lt)
  have hplace : n.placeAfter bits further count ≤ 0x100000000 := by
    refine placeAfter_le hdvd hfirst (fun u hu => .inl ?_) count
    rcases List.mem_append.mp hu with hsubnet | hmore
    · obtain ⟨s, _, rfl⟩ := List.mem_map.mp hsubnet
      exact s.cidr.last_lt
    · exact hfurther u hmore
  omega

/-! ### The search for a block -/

/-- The block that is found is at the place after all of the stretches in use, if it ends in the
network. -/
theorem freeBlock?_eq (n : Network) (bits : Nat) (further : List Stretch) :
    n.freeBlock? bits further =
      let place := n.placeAfter bits further (n.usedStretches further).length
      if place + Cidr.sizeOf bits - 1 ≤ n.cidr.last then Cidr.ofNat? place bits else none := by
  rw [placeAfter, List.take_length]
  rfl

/-- A block of a size that can be given to a new subnet away from further stretches. -/
structure Vacant (n : Network) (bits : Nat) (further : List Stretch) (c : Cidr) : Prop where
  /-- The block can be given to a new subnet. -/
  fits : n.Fits c
  /-- It has the size. -/
  bits_eq : c.bits = bits
  /-- It has no address of the further stretches. -/
  clear : ∀ u ∈ further, u.last < c.first ∨ c.last < u.first

variable {n : Network} {bits : Nat} {further : List Stretch}

/-- Where a block is vacant, the search finds one that is not behind it. -/
theorem Vacant.exists_freeBlock? {c : Cidr} (hc : n.Vacant bits further c) :
    ∃ d, n.freeBlock? bits further = some d ∧ d.first ≤ c.first := by
  have hwithin := Cidr.within_iff.mp hc.fits.within
  have hsize : c.size = Cidr.sizeOf bits := by rw [Cidr.size, hc.bits_eq]
  have hlast : c.last = c.first + Cidr.sizeOf bits - 1 := by rw [Cidr.last, hsize]
  have hclear : ∀ u ∈ n.subnets.map (fun s => s.cidr.stretch) ++ further,
      u.last < c.first ∨ c.first + Cidr.sizeOf bits - 1 < u.first := by
    rw [← hlast]
    refine List.forall_mem_append.mpr ⟨List.forall_mem_map.mpr fun s hs => ?_, hc.clear⟩
    exact Cidr.disjoint_iff.mp (hc.fits.apart s hs).symm
  have hplace : n.placeAfter bits further (n.usedStretches further).length ≤ c.first :=
    placeAfter_le (hsize ▸ c.size_dvd_first) hwithin.1 hclear _
  have hend : n.placeAfter bits further (n.usedStretches further).length +
      Cidr.sizeOf bits - 1 ≤ n.cidr.last := by omega
  have hvalue : n.placeAfter bits further (n.usedStretches further).length < 0x100000000 :=
    Nat.lt_of_le_of_lt hplace (Nat.lt_of_le_of_lt c.first_le c.address.value_lt)
  have hbits : bits ≤ 32 := hc.bits_eq ▸ c.bits_le
  have hfound : n.freeBlock? bits further = some ⟨⟨_, hvalue⟩, bits, hbits⟩ :=
    (n.freeBlock?_eq bits further).trans ((if_pos hend).trans (dif_pos ⟨hvalue, hbits⟩))
  exact ⟨_, hfound, Nat.le_trans (Cidr.first_le _) hplace⟩

/-- The search gives the lowest vacant block. -/
theorem freeBlock?_eq_some_iff {c : Cidr} :
    n.freeBlock? bits further = some c ↔
      n.Vacant bits further c ∧ ∀ d, n.Vacant bits further d → c.first ≤ d.first := by
  constructor
  · intro hfound
    obtain ⟨hfits, hbits, hclear⟩ := freeBlock?_spec hfound
    refine ⟨⟨hfits, hbits, hclear⟩, fun d hd => ?_⟩
    obtain ⟨_, hfound', hle⟩ := hd.exists_freeBlock?
    obtain rfl := Option.some.inj (hfound.symm.trans hfound')
    exact hle
  · rintro ⟨hc, hlowest⟩
    obtain ⟨d, hfound, hle⟩ := hc.exists_freeBlock?
    obtain ⟨hfits, hbits, hclear⟩ := freeBlock?_spec hfound
    have hge := hlowest d ⟨hfits, hbits, hclear⟩
    have hsame := hfits.aligned.eq_of_first hc.fits.aligned (hbits.trans hc.bits_eq.symm)
      (Nat.le_antisymm hle hge)
    exact hsame ▸ hfound

/-- The search fails only where no block is vacant. -/
theorem freeBlock?_eq_none_iff :
    n.freeBlock? bits further = none ↔ ∀ c, ¬n.Vacant bits further c := by
  constructor
  · intro hnone c hc
    obtain ⟨_, hfound, _⟩ := hc.exists_freeBlock?
    rw [hnone] at hfound
    cases hfound
  · intro hfull
    refine Option.eq_none_iff_forall_ne_some.mpr fun c hfound => ?_
    exact hfull c (freeBlock?_eq_some_iff.mp hfound).1

/-! ### Carving a size -/

/-- The block is the lowest of its size that can be given to a new subnet. -/
structure IsFirstFit (n : Network) (bits : Nat) (c : Cidr) : Prop where
  /-- The block can be given to a new subnet. -/
  fits : n.Fits c
  /-- It has the size. -/
  bits_eq : c.bits = bits
  /-- No other block of the size that can be given to a new subnet is lower. -/
  lowest : ∀ d, n.Fits d → d.bits = bits → c.first ≤ d.first

/-- Without further stretches a block is vacant if it fits and has the size. -/
theorem vacant_nil_iff {c : Cidr} : n.Vacant bits [] c ↔ n.Fits c ∧ c.bits = bits :=
  ⟨fun hc => ⟨hc.fits, hc.bits_eq⟩, fun hc => ⟨hc.1, hc.2, by simp⟩⟩

/-- The search among the subnets alone gives the first fit. -/
theorem freeBlock?_nil_eq_some_iff {c : Cidr} :
    n.freeBlock? bits [] = some c ↔ n.IsFirstFit bits c := by
  rw [freeBlock?_eq_some_iff]
  simp only [vacant_nil_iff]
  constructor
  · rintro ⟨⟨hfits, hbits⟩, hlowest⟩
    exact ⟨hfits, hbits, fun d hd hd' => hlowest d ⟨hd, hd'⟩⟩
  · intro hc
    exact ⟨⟨hc.fits, hc.bits_eq⟩, fun d hd => hc.lowest d hd.1 hd.2⟩

/-- There is a first fit as soon as a block of the size fits. -/
theorem exists_isFirstFit_iff :
    (∃ c, n.IsFirstFit bits c) ↔ ∃ c, n.Fits c ∧ c.bits = bits := by
  constructor
  · rintro ⟨c, hc⟩
    exact ⟨c, hc.fits, hc.bits_eq⟩
  · rintro ⟨c, hc⟩
    obtain ⟨d, hfound, _⟩ := (vacant_nil_iff.mpr hc).exists_freeBlock?
    exact ⟨d, freeBlock?_nil_eq_some_iff.mp hfound⟩

/-- Sizes from that of the network to that of a single address can be carved. -/
theorem checkBits_eq_ok : n.checkBits bits = .ok () ↔ n.cidr.bits ≤ bits ∧ bits ≤ 32 := by
  unfold checkBits
  simp only [Bool.or_eq_true, decide_eq_true_eq]
  split
  · next hout =>
    refine ⟨fun h => ?_, fun h => ?_⟩
    · cases h
    · omega
  · next hin => simpa using hin

/-- Where its name and its size can be carved, a subnet is carved on the first fit. -/
theorem carve_eq_ok_iff {name : String} (hcan : n.checkCanCarve name = .ok ())
    (hbits : n.checkBits bits = .ok ()) {vlan : UInt16} {s : Subnet} :
    n.carve bits name vlan = .ok s ↔ ∃ c, n.IsFirstFit bits c ∧ s = .create name c vlan := by
  simp only [carve_eq_ok, hcan, hbits, true_and, freeBlock?_nil_eq_some_iff]

section

variable {suits : Cidr → Prop} {name : String} {vlan : UInt16} {carved : Except AddressError Subnet}

/-- A subnet that is carved on a block that suits is made for the block and added. -/
theorem add_eq_ok_iff (hcarved : ∀ s, carved = .ok s ↔ ∃ c, suits c ∧ s = .create name c vlan)
    (s : Subnet) (m : Network) :
    (do let s ← carved; return (s, n.push s)) = Except.ok (s, m) ↔
      ∃ c, suits c ∧ s = .create name c vlan ∧ m = n.push s := by
  rw [add_eq_ok, hcarved]
  simp only [← and_assoc, exists_and_right]

/-- A subnet that is carved on a block that suits is added exactly if there is such a block. -/
theorem exists_add_eq_ok_iff
    (hcarved : ∀ s, carved = .ok s ↔ ∃ c, suits c ∧ s = .create name c vlan) :
    (∃ s m, (do let s ← carved; return (s, n.push s)) = Except.ok (s, m)) ↔ ∃ c, suits c := by
  simp only [add_eq_ok_iff hcarved]
  constructor
  · rintro ⟨_, _, c, hc, _⟩
    exact ⟨c, hc⟩
  · rintro ⟨c, hc⟩
    exact ⟨_, _, c, hc, rfl, rfl⟩

end

/-- Where no block of the size fits, this is the fault. -/
theorem carve_of_full {name : String} (hcan : n.checkCanCarve name = .ok ())
    (hbits : n.checkBits bits = .ok ()) (hfull : ∀ c, n.Fits c → c.bits ≠ bits)
    (vlan : UInt16) :
    n.carve bits name vlan = .error (.noFreeBlock n.name n.cidr bits name) := by
  have hnone : n.freeBlock? bits [] = none :=
    freeBlock?_eq_none_iff.mpr fun c hc => hfull c hc.fits hc.bits_eq
  rw [carve, hcan, hbits]
  simp only [hnone]
  rfl

/-- Carving a size is exact first fit: a network that is not sealed gives a subnet of a size to a
new name exactly if some aligned block of this size lies in it and has no address of a subnet.
The subnet is made for the lowest such block and added after the others, and if there is none,
this is the fault. Wherever the search stands, its numbers are far from the end of 64 bits. -/
theorem addSubnet_firstFit (hopen : n.isSealed = false) {name : String}
    (hnew : name ∉ n.subnetNames) (hle : n.cidr.bits ≤ bits) (hbits : bits ≤ 32)
    (vlan : UInt16) :
    ((∃ s m, n.addSubnet bits name vlan = .ok (s, m)) ↔ ∃ c, n.Fits c ∧ c.bits = bits) ∧
    (∀ s m, n.addSubnet bits name vlan = .ok (s, m) ↔
      ∃ c, n.IsFirstFit bits c ∧ s = .create name c vlan ∧ m = n.push s) ∧
    ((¬∃ c, n.Fits c ∧ c.bits = bits) →
      n.addSubnet bits name vlan = .error (.noFreeBlock n.name n.cidr bits name)) ∧
    ∀ count, n.placeAfter bits [] count + Cidr.sizeOf bits ≤ 0x200000000 := by
  have hcan := checkCanCarve_eq_ok.mpr ⟨hopen, hnew⟩
  have hsize := checkBits_eq_ok.mpr ⟨hle, hbits⟩
  have hcarved : ∀ s, n.carve bits name vlan = .ok s ↔
      ∃ c, n.IsFirstFit bits c ∧ s = .create name c vlan := fun _ => carve_eq_ok_iff hcan hsize
  refine ⟨?_, add_eq_ok_iff hcarved, fun hfull => ?_, n.placeAfter_add_sizeOf_le bits (by simp)⟩
  · exact (exists_add_eq_ok_iff hcarved).trans exists_isFirstFit_iff
  · rw [addSubnet, carve_of_full hcan hsize fun c hc hc' => hfull ⟨c, hc, hc'⟩]
    rfl

/-- A network of all addresses. Its subnets lie in no order, and one lies inside another. -/
def boundlessNetwork : Network where
  name := "ALL"
  cidr := .ofOctets 0 0 0 0 0
  vlanRange := .single 4
  mtu := 9000
  fabric := .ethernet
  subnets := [.create "upper" (.ofOctets 128 0 0 0 2) 4, .create "nested" (.ofOctets 10 1 2 3 8) 4,
    .create "lower" (.ofOctets 0 0 0 0 1) 4, .create "next" (.ofOctets 192 0 0 0 3) 4]

/-- What is left of the network is its last block, up to the last address of all. -/
theorem addSubnet_firstFit_boundlessNetwork :
    boundlessNetwork.isSealed = false ∧ "last" ∉ boundlessNetwork.subnetNames ∧
      boundlessNetwork.cidr.bits ≤ 2 ∧ 3 ≤ 32 ∧
      (∃ s m, boundlessNetwork.addSubnet 3 "last" 4 = .ok (s, m) ∧
        s.cidr = .ofOctets 224 0 0 0 3 ∧ s.cidr.last = 0xFFFFFFFF ∧
        boundlessNetwork.IsFirstFit 3 s.cidr) ∧
      ∀ c, boundlessNetwork.Fits c → c.bits ≠ 2 := by
  have hopen : boundlessNetwork.isSealed = false := rfl
  have hnew : "last" ∉ boundlessNetwork.subnetNames := by decide
  have heighth : boundlessNetwork.cidr.bits ≤ 3 := by decide
  have hquarter : boundlessNetwork.cidr.bits ≤ 2 := by decide
  obtain ⟨_, hcarved, _⟩ := addSubnet_firstFit hopen hnew heighth (by decide) 4
  obtain ⟨hexists, _⟩ := addSubnet_firstFit hopen hnew hquarter (by decide) 4
  obtain ⟨⟨s, m⟩, hadd, hblock⟩ : ∃ made, boundlessNetwork.addSubnet 3 "last" 4 = .ok made ∧
      decide (made.1.cidr = .ofOctets 224 0 0 0 3) = true :=
    Outcome.exists_of_toOption_any (by decide +kernel)
  have hcidr : s.cidr = .ofOctets 224 0 0 0 3 := of_decide_eq_true hblock
  refine ⟨hopen, hnew, hquarter, by decide, ⟨s, m, hadd, hcidr, ?_, ?_⟩, fun c hc hbits => ?_⟩
  · rw [hcidr]
    decide
  · obtain ⟨c, hc, rfl, _⟩ := (hcarved s m).mp hadd
    exact hc
  · obtain ⟨t, k, hadd'⟩ := hexists.mpr ⟨c, hc, hbits⟩
    have hfull : boundlessNetwork.addSubnet 2 "last" 4 =
        .error (.noFreeBlock "ALL" (.ofOctets 0 0 0 0 0) 2 "last") := by decide +kernel
    rw [hfull] at hadd'
    cases hadd'

end SitePlan.Network
