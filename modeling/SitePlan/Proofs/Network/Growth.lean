import Mathlib.Data.List.Nodup
import SitePlan.Proofs.Network.Carving

/-!
# Networks that grow

A network grows by subnets that are added one after another. As long as each of them has a
new name and a block that fits, the subnets stay aligned, inside the network, apart from
each other and under names of their own.
-/

namespace SitePlan.Network

open Outcome

/-- What holds of the subnets of a network from which subnets were carved. -/
structure WellCarved (n : Network) : Prop where
  /-- No block has host bits. -/
  aligned : ∀ s ∈ n.subnets, s.cidr.IsAligned
  /-- Every block lies in the network. -/
  within : ∀ s ∈ n.subnets, s.cidr.Within n.cidr
  /-- No two subnets have an address in common. -/
  apart : n.subnets.Pairwise fun a b => a.cidr.Disjoint b.cidr
  /-- No two subnets have the same name. -/
  names : n.subnetNames.Nodup

/-- Nothing is amiss where nothing is carved. -/
theorem wellCarved_of_subnets_eq_nil {n : Network} (hnone : n.subnets = []) :
    n.WellCarved := by
  constructor <;> simp [hnone, subnetNames]

/-- Adding a subnet adds its name after the others. -/
theorem subnetNames_push (n : Network) (s : Subnet) :
    (n.push s).subnetNames = n.subnetNames ++ [s.name] := by
  simp [subnetNames, Network.push]

/-- A subnet of a new name on a block that fits keeps the network in order. -/
theorem WellCarved.push {n : Network} {s : Subnet} (hn : n.WellCarved)
    (hnew : s.name ∉ n.subnetNames) (hfits : n.Fits s.cidr) : (n.push s).WellCarved where
  aligned := List.forall_mem_append.mpr ⟨hn.aligned, by simpa using hfits.aligned⟩
  within := List.forall_mem_append.mpr
    ⟨hn.within, fun t ht => List.mem_singleton.mp ht ▸ hfits.within⟩
  apart := by
    refine List.pairwise_append.mpr ⟨hn.apart, List.pairwise_singleton _ _, ?_⟩
    intro a ha b hb
    obtain rfl := List.mem_singleton.mp hb
    exact (hfits.apart a ha).symm
  names := by
    rw [subnetNames_push, List.nodup_append_comm]
    exact List.nodup_cons.mpr ⟨hnew, hn.names⟩

/-- A new subnet has the name that it was carved for. -/
theorem Carved.name_eq {n : Network} {name : String} {vlan : UInt16} {s : Subnet}
    (hcarved : n.Carved name vlan s) : s.name = name := by
  rw [hcarved.created]
  rfl

/-- The second network comes from the first one by adding subnets one after another, each
of which the network before it admits. -/
inductive Grown (admits : Network → Subnet → Prop) (n : Network) : Network → Prop
  | start : Grown admits n n
  | push {m : Network} {s : Subnet} :
      Grown admits n m → admits m s → Grown admits n (m.push s)

variable {admits admits' : Network → Subnet → Prop}

/-- Growth goes on from where it stopped. -/
theorem Grown.trans {n m k : Network} (hnm : n.Grown admits m) (hmk : m.Grown admits k) :
    n.Grown admits k := by
  induction hmk with
  | start => exact hnm
  | push _ hs ih => exact ih.push hs

/-- What grows by admitted subnets grows by subnets that are admitted more freely. -/
theorem Grown.mono {n m : Network} (hnm : n.Grown admits m)
    (hfree : ∀ k s, admits k s → admits' k s) : n.Grown admits' m := by
  induction hnm with
  | start => exact .start
  | push _ hs ih => exact ih.push (hfree _ _ hs)

/-- Growth adds subnets after the others and changes nothing else. -/
theorem Grown.eq_append {n m : Network} (hnm : n.Grown admits m) :
    ∃ added, m = { n with subnets := n.subnets ++ added } := by
  induction hnm with
  | start => exact ⟨[], by simp⟩
  | @push m s _ _ ih =>
    obtain ⟨added, hm⟩ := ih
    refine ⟨added ++ [s], ?_⟩
    subst hm
    simp [Network.push]

/-- Each subnet that was added is one that the network admitted with the subnets added before
it. -/
theorem Grown.exists_admitted {n m : Network} (hnm : n.Grown admits m) :
    ∃ added, m = { n with subnets := n.subnets ++ added } ∧
      ∀ before s after, added = before ++ s :: after →
        admits { n with subnets := n.subnets ++ before } s := by
  induction hnm with
  | start => exact ⟨[], by simp, by simp⟩
  | @push m s _ hs ih =>
    obtain ⟨added, rfl, hadmitted⟩ := ih
    refine ⟨added ++ [s], by simp [Network.push], fun before t after hadded => ?_⟩
    -- What comes after the subnet is nothing, or it ends with the subnet added last.
    rcases after.eq_nil_or_concat with rfl | ⟨after, last, rfl⟩
    · obtain ⟨rfl, ht⟩ := List.append_inj' hadded rfl
      obtain rfl := List.singleton_inj.mp ht
      exact hs
    · rw [List.concat_eq_append, ← List.cons_append, ← List.append_assoc] at hadded
      exact hadmitted before t after (List.append_inj' hadded rfl).1

/-- A subnet of a new name is found under this name. -/
theorem lookup_push {n : Network} {name : String} {s : Subnet} (hname : s.name = name)
    (hnew : name ∉ n.subnetNames) : (n.push s).lookup name = .ok s := by
  have hnone : (n.subnets.find? fun t => t.name = name) = none := by
    simpa [subnetNames] using hnew
  simp [lookup, Network.push, hnone, hname]

/-- A subnet that is found stays so while the network grows. -/
theorem Grown.lookup {n m : Network} {name : String} {s : Subnet} (hnm : n.Grown admits m)
    (hfound : n.lookup name = .ok s) : m.lookup name = .ok s := by
  obtain ⟨added, rfl⟩ := hnm.eq_append
  unfold Network.lookup at hfound ⊢
  split at hfound
  · next hsome => simpa [hsome] using hfound
  · cases hfound

/-- Carving can have given this subnet. -/
def Carves (n : Network) (s : Subnet) : Prop := ∃ name vlan, n.Carved name vlan s

/-- Carving keeps a network in order. -/
theorem Grown.wellCarved {n m : Network} (hnm : n.Grown Carves m) (hn : n.WellCarved) :
    m.WellCarved := by
  induction hnm with
  | start => exact hn
  | push _ hs ih =>
    obtain ⟨name, vlan, hcarved⟩ := hs
    exact ih.push (hcarved.name_eq ▸ hcarved.isNew) hcarved.fits

/-- The subnets of cabinets are carved one after another, also up to a fault. -/
theorem grown_carveCabinets (bits : Nat) (overrides : Option Overrides)
    (pinned : List Stretch) (n : Network) (place : Nat) (ds : List Cabinet.Detail) :
    n.Grown Carves (carveCabinets bits overrides pinned n place ds).2 := by
  induction ds generalizing n place with
  | nil => exact .start
  | cons d rest ih =>
    unfold carveCabinets
    split
    · exact .start
    · next s hcarve =>
      obtain ⟨vlan, _, hs⟩ := carveCabinet_spec hcarve
      exact (Grown.start.push ⟨_, _, hs⟩).trans (ih (n.push s) (place + 1))

/-- Giving cabinets their subnets is carving, also where it fails. -/
theorem grown_addCabinetSubnets (n : Network) (groups : List Cabinet.Group)
    (bits : Nat) (accepts : Cabinet.Filter) (overrides : Option Overrides) :
    n.Grown Carves (n.addCabinetSubnets groups bits accepts overrides).2 := by
  unfold addCabinetSubnets
  split
  · exact .start
  · split
    · exact .start
    · exact grown_carveCabinets _ _ _ _ _ _

end SitePlan.Network
