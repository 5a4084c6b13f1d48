import Mathlib.Algebra.GroupWithZero.Nat
import Mathlib.Data.List.Basic
import Mathlib.Data.List.Induction
import IsaCensus.Seed.Collector

/-! The collector of seeds as a filter. Of all addresses that are offered, it keeps those that
are not zero and lie in a region, each where it occurs first; it knows for each which source
offered it first; and it counts every candidate once, as added or by why it was passed over. -/

namespace IsaCensus

section Distinct
variable {β : Type} [DecidableEq β]

theorem eraseDups_concat (past : List β) (item : β) :
    (past ++ [item]).eraseDups = if item ∈ past then past.eraseDups else past.eraseDups ++ [item] := by
  rw [List.eraseDups_append]
  by_cases seen : item ∈ past
  · simp [List.removeAll, seen]
  · simp [List.removeAll, List.eraseDups_cons, seen]

/-- What is kept stands in the order of first occurrence. -/
theorem eraseDups_ordered (items : List β) :
    items.eraseDups.Pairwise fun first second => items.idxOf first < items.idxOf second := by
  induction items using List.reverseRecOn with
  | nil => exact .nil
  | append_singleton past item ih =>
    have earlier : past.eraseDups.Pairwise fun first second =>
        (past ++ [item]).idxOf first < (past ++ [item]).idxOf second := by
      refine ih.imp_of_mem fun {first second} kept found order => ?_
      rwa [List.idxOf_append_of_mem (List.mem_eraseDups.mp kept),
        List.idxOf_append_of_mem (List.mem_eraseDups.mp found)]
    rw [eraseDups_concat]
    split
    next => exact earlier
    next unseen =>
      refine List.pairwise_append.mpr ⟨earlier, List.pairwise_singleton _ _, fun first kept last new => ?_⟩
      have listed := List.mem_eraseDups.mp kept
      have place := List.idxOf_lt_length_iff.mpr listed
      rw [List.mem_singleton.mp new, List.idxOf_append_of_mem listed, List.idxOf_append_of_notMem unseen]
      omega

theorem eraseDups_distinct (items : List β) : items.eraseDups.Nodup := by
  refine (eraseDups_ordered items).imp fun {first second} order same => ?_
  exact Nat.lt_irrefl _ (same ▸ order)

end Distinct

def Offer.addresses (domain : Domain) (offer : Offer) : List UInt64 :=
  offer.candidates.map domain.normalize

/-- Which source each address came from, in the order of the addresses. -/
def SeedSet.provenance (set : SeedSet) : List Nat := set.seeds.map Seed.source

namespace Space

def admits (space : Space) (address : UInt64) : Bool := address != 0 && space.contains address

/-- Of some addresses in a row, the first occurrence of each that is not zero and resolves. -/
def accepted (space : Space) (addresses : List UInt64) : List UInt64 :=
  (addresses.filter space.admits).eraseDups

/-- Everything that the offers contain, one after the other. -/
def offered (space : Space) (offers : List Offer) : List UInt64 :=
  offers.flatMap (Offer.addresses space.domain)

/-- The place of the first offer that contains an address. -/
def firstOffer? (space : Space) (offers : List Offer) (address : UInt64) : Option Nat :=
  offers.findIdx? fun offer => (offer.addresses space.domain).contains address

/-- What becomes of an address that is offered after others. -/
def verdict (space : Space) (past : List UInt64) (address : UInt64) : Verdict :=
  if address = 0 then .zero
  else if address ∈ space.accepted past then .duplicate
  else if !space.contains address then .notExecutable
  else .accepted

def verdicts (space : Space) (past : List UInt64) : List UInt64 → List Verdict
  | [] => []
  | address :: rest => space.verdict past address :: space.verdicts (past ++ [address]) rest

/-- How many of some addresses in a row had been accepted when they were offered. -/
def repeats (space : Space) (past addresses : List UInt64) : Nat :=
  addresses.zipIdx.countP fun (address, place) =>
    (space.accepted (past ++ addresses.take place)).contains address

/-- The accepted addresses of an offer that no earlier one contains. -/
def fresh (space : Space) (past addresses : List UInt64) : List UInt64 :=
  (space.accepted addresses).filter fun address => !past.contains address

/-- The account of an offer that comes after others. -/
def account (space : Space) (past : List UInt64) (offer : Offer) : SeedSource :=
  let addresses := offer.addresses space.domain
  { name := offer.name
    candidates := addresses.length
    added := (space.fresh past addresses).length
    skippedZero := addresses.count 0
    skippedNotExecutable := addresses.countP fun address => address ≠ 0 ∧ space.contains address = false
    skippedDuplicate := space.repeats past addresses }

variable {space : Space} {past addresses : List UInt64} {address : UInt64}

theorem admits_iff : space.admits address = true ↔ address ≠ 0 ∧ space.contains address = true := by
  simp only [admits, Bool.and_eq_true, bne_iff_ne]

theorem mem_accepted : address ∈ space.accepted addresses ↔
    address ∈ addresses ∧ address ≠ 0 ∧ space.contains address = true := by
  rw [accepted, List.mem_eraseDups, List.mem_filter, admits_iff]

theorem verdict_accepted : space.verdict past address = .accepted ↔
    address ∉ past ∧ address ≠ 0 ∧ space.contains address = true := by
  simp only [verdict, mem_accepted]
  grind

theorem verdict_duplicate : space.verdict past address = .duplicate ↔ address ∈ space.accepted past := by
  simp only [verdict, mem_accepted]
  grind

theorem verdict_notExecutable : space.verdict past address = .notExecutable ↔
    address ≠ 0 ∧ space.contains address = false := by
  simp only [verdict, mem_accepted]
  grind

theorem verdict_zero : space.verdict past address = .zero ↔ address = 0 := by
  simp only [verdict]
  grind

theorem accepted_concat (space : Space) (past : List UInt64) (address : UInt64) : space.accepted (past ++ [address]) =
    space.accepted past ++ if space.verdict past address = .accepted then [address] else [] := by
  simp only [accepted, verdict_accepted, ← admits_iff, List.filter_append]
  by_cases admitted : space.admits address = true
  · rw [List.filter_cons_of_pos admitted, List.filter_nil, eraseDups_concat]
    by_cases repeated : address ∈ past
    · rw [if_pos (List.mem_filter.mpr ⟨repeated, admitted⟩), if_neg fun fresh => fresh.1 repeated, List.append_nil]
    · rw [if_neg fun seen => repeated (List.mem_filter.mp seen).1, if_pos ⟨repeated, admitted⟩]
  · rw [List.filter_cons_of_neg admitted, List.filter_nil, if_neg fun fresh => admitted fresh.2, List.append_nil,
      List.append_nil]

theorem accepted_append (space : Space) (past addresses : List UInt64) :
    space.accepted (past ++ addresses) = space.accepted past ++ space.fresh past addresses := by
  induction addresses using List.reverseRecOn with
  | nil => simp [accepted, fresh]
  | append_singleton addresses address ih =>
    rw [← List.append_assoc, accepted_concat, ih, fresh, fresh, accepted_concat, List.filter_append,
      List.append_assoc]
    congr 2
    simp only [verdict_accepted, List.mem_append]
    grind

theorem accepted_nodup (space : Space) (addresses : List UInt64) : (space.accepted addresses).Nodup :=
  eraseDups_distinct _

theorem fresh_append (space : Space) (past first second : List UInt64) :
    space.fresh past (first ++ second) = space.fresh past first ++ space.fresh (past ++ first) second := by
  apply List.append_cancel_left
  rw [← accepted_append, ← List.append_assoc, accepted_append, accepted_append, List.append_assoc]

theorem fresh_singleton (space : Space) (past : List UInt64) (address : UInt64) :
    space.fresh past [address] = if space.verdict past address = .accepted then [address] else [] := by
  apply List.append_cancel_left
  rw [← accepted_append, accepted_concat]

theorem length_verdicts (space : Space) (past addresses : List UInt64) :
    (space.verdicts past addresses).length = addresses.length := by
  induction addresses generalizing past with
  | nil => rfl
  | cons address rest ih => exact congrArg (· + 1) (ih (past ++ [address]))

theorem count_accepted (space : Space) (past addresses : List UInt64) :
    (space.verdicts past addresses).count .accepted = (space.fresh past addresses).length := by
  induction addresses generalizing past with
  | nil => rfl
  | cons address rest ih =>
    have parts := space.fresh_append past [address] rest
    rw [List.singleton_append, fresh_singleton] at parts
    rw [verdicts, List.count_cons, ih, parts, List.length_append, Nat.add_comm]
    by_cases accepted : space.verdict past address = .accepted <;> simp [accepted]

/-- A verdict that does not depend on what was offered before. -/
theorem count_of_test {verdict : Verdict} {test : UInt64 → Bool}
    (decided : ∀ past address, space.verdict past address = verdict ↔ test address = true)
    (past addresses : List UInt64) : (space.verdicts past addresses).count verdict = addresses.countP test := by
  induction addresses generalizing past with
  | nil => rfl
  | cons address rest ih => simp only [verdicts, List.count_cons, List.countP_cons, ih, beq_iff_eq, decided]

theorem count_zero (space : Space) (past addresses : List UInt64) :
    (space.verdicts past addresses).count .zero = addresses.count 0 :=
  count_of_test (fun _ _ => verdict_zero.trans beq_iff_eq.symm) past addresses

theorem count_notExecutable (space : Space) (past addresses : List UInt64) :
    (space.verdicts past addresses).count .notExecutable =
      addresses.countP fun address => address ≠ 0 ∧ space.contains address = false :=
  count_of_test (fun _ _ => verdict_notExecutable.trans decide_eq_true_iff.symm) past addresses

theorem count_duplicate (space : Space) (past addresses : List UInt64) :
    (space.verdicts past addresses).count .duplicate = space.repeats past addresses := by
  induction addresses generalizing past with
  | nil => rfl
  | cons address rest ih =>
    rw [repeats, List.zipIdx_cons, List.zipIdx_succ, List.countP_cons, List.countP_map]
    simp only [verdicts, List.count_cons, ih, beq_iff_eq, verdict_duplicate, repeats, List.take_zero, List.append_nil,
      List.contains_iff_mem]
    congr 2
    funext entry
    simp only [Function.comp, List.take_succ_cons, List.append_assoc, List.singleton_append]

end Space

/-- Every verdict is one of four. -/
theorem length_eq_counts (verdicts : List Verdict) : verdicts.length = verdicts.count .accepted + verdicts.count .zero +
    verdicts.count .notExecutable + verdicts.count .duplicate := by
  induction verdicts with
  | nil => rfl
  | cons verdict rest ih => cases verdict <;> simp [ih] <;> omega

theorem SeedSource.foldl_count (source : SeedSource) (verdicts : List Verdict) : verdicts.foldl count source =
    { name := source.name
      candidates := source.candidates + verdicts.length
      added := source.added + verdicts.count .accepted
      skippedZero := source.skippedZero + verdicts.count .zero
      skippedNotExecutable := source.skippedNotExecutable + verdicts.count .notExecutable
      skippedDuplicate := source.skippedDuplicate + verdicts.count .duplicate } := by
  induction verdicts generalizing source with
  | nil => rfl
  | cons verdict rest ih =>
    rw [List.foldl_cons, ih]
    cases verdict <;> simp [count, Nat.add_assoc, Nat.add_comm 1]

theorem Space.account_eq_foldl (space : Space) (past : List UInt64) (offer : Offer) :
    space.account past offer =
      (space.verdicts past (offer.addresses space.domain)).foldl .count { name := offer.name } := by
  simp only [SeedSource.foldl_count, account, Nat.zero_add, length_verdicts, count_accepted, count_zero,
    count_notExecutable, count_duplicate]

theorem Space.account_sum (space : Space) (past : List UInt64) (offer : Offer) :
    (space.account past offer).candidates = (space.account past offer).added + (space.account past offer).skippedZero +
      (space.account past offer).skippedNotExecutable + (space.account past offer).skippedDuplicate := by
  rw [account_eq_foldl, SeedSource.foldl_count]
  simp only [Nat.zero_add]
  exact length_eq_counts _

/-- The place of the first offer stays when others follow. -/
theorem Space.firstOffer_append (space : Space) (offers : List Offer) (offer : Offer) (address : UInt64) :
    space.firstOffer? (offers ++ [offer]) address = (space.firstOffer? offers address).or
      (if address ∈ offer.addresses space.domain then some offers.length else none) := by
  by_cases offered : address ∈ offer.addresses space.domain <;> simp [firstOffer?, List.findIdx?_append, offered]

theorem Space.firstOffer_none {space : Space} {offers : List Offer} {address : UInt64} :
    space.firstOffer? offers address = none ↔ address ∉ space.offered offers := by
  simp [firstOffer?, offered]

theorem Space.offered_concat (space : Space) (offers : List Offer) (offer : Offer) :
    space.offered (offers ++ [offer]) = space.offered offers ++ offer.addresses space.domain := by
  simp [offered]

def Space.accounts (space : Space) (offers : List Offer) : List SeedSource :=
  offers.mapIdx fun place offer => space.account (space.offered (offers.take place)) offer

theorem Space.accounts_concat (space : Space) (offers : List Offer) (offer : Offer) :
    space.accounts (offers ++ [offer]) = space.accounts offers ++ [space.account (space.offered offers) offer] := by
  rw [accounts, accounts, List.mapIdx_concat, List.take_left']
  · congr 1
    apply List.mapIdx_eq_mapIdx_iff.mpr
    intro place inside
    rw [List.take_append_of_le_length (Nat.le_of_lt inside)]
  · rfl

/-! What the collector does with one candidate, with one offer and with all of them. -/

namespace Collector

/-- A collector to which these addresses have been offered. -/
structure Holds (collector : Collector) (past : List UInt64) : Prop where
  seen : ∀ address, address ∈ collector.seen ↔ address ∈ collector.space.accepted past
  addresses : collector.seeds.toList.map Seed.address = collector.space.accepted past

/-- From one collector to the other, a part of an offer is taken. -/
structure Takes (before : Collector) (past addresses : List UInt64) (after : Collector) : Prop where
  space : after.space = before.space
  sources : after.sources = before.sources
  accepted : after.accepted = before.accepted
  seeds : after.seeds.toList = before.seeds.toList ++
    (before.space.fresh past addresses).map fun address => ⟨address, before.sources.size⟩
  holds : after.Holds (past ++ addresses)

theorem Takes.trans {before middle after : Collector} {past first second : List UInt64}
    (early : Takes before past first middle) (late : Takes middle (past ++ first) second after) :
    Takes before past (first ++ second) after where
  space := late.space.trans early.space
  sources := late.sources.trans early.sources
  accepted := late.accepted.trans early.accepted
  seeds := by
    rw [late.seeds, early.seeds, early.space, early.sources, Space.fresh_append, List.map_append, List.append_assoc]
  holds := by simpa only [List.append_assoc] using late.holds

section Taking
variable {collector : Collector} {past : List UInt64}

theorem verdict_holds (holds : collector.Holds past) (address : UInt64) :
    collector.verdict address = collector.space.verdict past address := by
  simp only [verdict, Space.verdict, holds.seen]

theorem take_takes (holds : collector.Holds past) (source : SeedSource) (candidate : UInt64) :
    Takes collector past [collector.space.domain.normalize candidate] (collector.take source candidate).1 := by
  simp only [take, verdict_holds holds]
  have extended := collector.space.accepted_concat past (collector.space.domain.normalize candidate)
  have added := collector.space.fresh_singleton past (collector.space.domain.normalize candidate)
  by_cases accepted : collector.space.verdict past (collector.space.domain.normalize candidate) = .accepted
  · simp only [if_pos accepted] at extended added ⊢
    refine ⟨rfl, rfl, rfl, ?_, ?_, ?_⟩
    · simp [added]
    · intro address
      rw [Std.HashSet.mem_insert, beq_iff_eq, holds.seen, extended, List.mem_append, List.mem_singleton, or_comm,
        eq_comm]
    · simp [extended, holds.addresses]
  · simp only [if_neg accepted, List.append_nil] at extended added ⊢
    refine ⟨rfl, rfl, rfl, ?_, ?_, ?_⟩
    · simp [added]
    · exact fun address => extended ▸ holds.seen address
    · exact extended ▸ holds.addresses

theorem take_counts (holds : collector.Holds past) (source : SeedSource) (candidate : UInt64) :
    (collector.take source candidate).2 =
      source.count (collector.space.verdict past (collector.space.domain.normalize candidate)) :=
  congrArg source.count (verdict_holds holds _)

theorem takeAll_takes (holds : collector.Holds past) (source : SeedSource) (candidates : List UInt64) :
    Takes collector past (candidates.map collector.space.domain.normalize) (collector.takeAll source candidates).1 ∧
      (collector.takeAll source candidates).2 =
        (collector.space.verdicts past (candidates.map collector.space.domain.normalize)).foldl .count source := by
  induction candidates generalizing collector past source with
  | nil => exact ⟨⟨rfl, rfl, rfl, by simp [Space.fresh, Space.accepted, takeAll], by simpa [takeAll] using holds⟩, rfl⟩
  | cons candidate rest ih =>
    have one := take_takes holds source candidate
    obtain ⟨others, counts⟩ := ih one.holds (collector.take source candidate).2
    rw [one.space] at others counts
    refine ⟨one.trans others, ?_⟩
    rw [takeAll, counts, take_counts holds]
    rfl

end Taking

/-- A collector that has seen these offers. -/
structure Gathered (space : Space) (offers : List Offer) (collector : Collector) : Prop where
  same : collector.space = space
  holds : collector.Holds (space.offered offers)
  sources : collector.sources.toList = space.accounts offers
  accepted : collector.accepted = (collector.sources.toList.map SeedSource.added).sum
  origins : ∀ seed ∈ collector.seeds.toList, space.firstOffer? offers seed.address = some seed.source

theorem Gathered.offer {space : Space} {offers : List Offer} {collector : Collector}
    (gathered : Gathered space offers collector) (offer : Offer) :
    Gathered space (offers ++ [offer]) (collector.offer offer) := by
  obtain ⟨rfl, holds, sources, accepted, origins⟩ := gathered
  obtain ⟨taken, counted⟩ := takeAll_takes holds { name := offer.name } offer.candidates
  have place : collector.sources.size = offers.length := by
    rw [← Array.length_toList, sources, Space.accounts, List.length_mapIdx]
  refine ⟨taken.space, ⟨?_, ?_⟩, ?_, ?_, ?_⟩
  · rw [Space.offered_concat]
    exact taken.holds.seen
  · rw [Space.offered_concat]
    exact taken.holds.addresses
  · rw [Space.accounts_concat, Space.account_eq_foldl, ← sources]
    simp only [Collector.offer, Array.toList_push, taken.sources, counted, Offer.addresses]
  · simp only [Collector.offer, Array.toList_push, List.map_append, List.map_singleton, List.sum_append,
      List.sum_singleton, taken.sources, taken.accepted, accepted]
  · intro seed kept
    rw [Space.firstOffer_append]
    simp only [Collector.offer, taken.seeds, List.mem_append, List.mem_map] at kept
    rcases kept with earlier | ⟨address, new, rfl⟩
    · rw [origins seed earlier, Option.some_or]
    · obtain ⟨accepted, unseen⟩ := List.mem_filter.mp new
      have unoffered : address ∉ collector.space.offered offers := by simpa using unseen
      have inside : address ∈ offer.addresses collector.space.domain := (Space.mem_accepted.mp accepted).1
      rw [Space.firstOffer_none.mpr unoffered, Option.none_or, if_pos inside, place]

theorem gathered (space : Space) (offers : List Offer) : Gathered space offers (offers.foldl offer { space }) := by
  induction offers using List.reverseRecOn with
  | nil => exact ⟨rfl, ⟨by simp [Space.offered, Space.accepted], rfl⟩, rfl, rfl, by simp⟩
  | append_singleton offers offer ih =>
    rw [List.foldl_append]
    exact ih.offer offer

end Collector

namespace SeedSet

theorem collect_addresses (space : Space) (offers : List Offer) :
    (collect space offers).addresses = space.accepted (space.offered offers) := by
  have gathered := Collector.gathered space offers
  have addresses := gathered.holds.addresses
  rwa [gathered.same] at addresses

theorem collect_sources (space : Space) (offers : List Offer) :
    (collect space offers).summary.sources = space.accounts offers :=
  (Collector.gathered space offers).sources

theorem collect_provenance (space : Space) (offers : List Offer) :
    (collect space offers).provenance.map some = (collect space offers).addresses.map (space.firstOffer? offers) := by
  simp only [provenance, addresses, List.map_map]
  apply List.map_congr_left
  intro seed kept
  exact ((Collector.gathered space offers).origins seed kept).symm

theorem collect_origin (space : Space) (offers : List Offer) (address : UInt64) :
    (collect space offers).originOf? address =
      if address ∈ (collect space offers).addresses then
        (offers.find? fun offer => (offer.addresses space.domain).contains address).map Offer.name
      else none := by
  cases found : (collect space offers).seeds.find? (·.address == address) with
  | none =>
    have missing : address ∉ (collect space offers).addresses := by simpa [addresses] using found
    simp [originOf?, found, missing]
  | some seed =>
    have kept := List.mem_of_find?_eq_some found
    have same : seed.address = address := by simpa using List.find?_some found
    subst same
    have first := (Collector.gathered space offers).origins seed kept
    obtain ⟨inside, offered, before⟩ := List.findIdx?_eq_some_iff_getElem.mp first
    have earliest : offers.find? (fun offer => (offer.addresses space.domain).contains seed.address) =
        some offers[seed.source] := by
      refine List.find?_eq_some_iff_getElem.mpr ⟨offered, seed.source, inside, rfl, ?_⟩
      intro place earlier
      simpa using before place earlier
    have listed : seed.address ∈ (collect space offers).addresses := List.mem_map_of_mem kept
    rw [if_pos listed, earliest]
    simp [originOf?, found, collect_sources, Space.accounts, inside, Space.account]

theorem collect_added (space : Space) (offers : List Offer) :
    (((collect space offers).summary.sources).map SeedSource.added).sum = (collect space offers).addresses.length := by
  rw [collect_sources, collect_addresses]
  induction offers using List.reverseRecOn with
  | nil => rfl
  | append_singleton offers offer ih =>
    rw [Space.accounts_concat, Space.offered_concat, Space.accepted_append, List.map_append, List.sum_append, ih,
      List.length_append]
    simp [Space.account]

theorem collect_accepted (space : Space) (offers : List Offer) :
    (collect space offers).summary.accepted = ((collect space offers).summary.sources.map SeedSource.added).sum :=
  (Collector.gathered space offers).accepted

/-- The seeds are the first occurrences of what the offers contain, less what is zero or does not
resolve; each is known by the first offer that contains it; and every source has its account. -/
theorem collect_first_occurrences (space : Space) (offers : List Offer) :
    ((collect space offers).addresses = space.accepted (space.offered offers) ∧
      (collect space offers).addresses.Nodup ∧
      ∀ address ∈ (collect space offers).addresses, address ≠ 0 ∧ space.contains address = true) ∧
    ((collect space offers).provenance.map some =
        (collect space offers).addresses.map (space.firstOffer? offers) ∧
      ∀ address, (collect space offers).originOf? address =
        if address ∈ (collect space offers).addresses then
          (offers.find? fun offer => (offer.addresses space.domain).contains address).map Offer.name
        else none) ∧
    ((collect space offers).summary.sources =
        offers.mapIdx (fun place offer => space.account (space.offered (offers.take place)) offer) ∧
      ∀ source ∈ (collect space offers).summary.sources, source.candidates =
        source.added + source.skippedZero + source.skippedNotExecutable + source.skippedDuplicate) ∧
    ((collect space offers).summary.accepted = ((collect space offers).summary.sources.map SeedSource.added).sum ∧
      (collect space offers).summary.accepted = (collect space offers).addresses.length ∧
      (collect space offers).summary.accepted = (collect space offers).provenance.length) := by
  have accepted := (collect_accepted space offers).trans (collect_added space offers)
  refine ⟨⟨collect_addresses space offers, ?_, ?_⟩,
    ⟨collect_provenance space offers, collect_origin space offers⟩,
    ⟨collect_sources space offers, ?_⟩, collect_accepted space offers, accepted, ?_⟩
  · rw [collect_addresses]
    exact space.accepted_nodup _
  · intro address kept
    rw [collect_addresses] at kept
    exact (Space.mem_accepted.mp kept).2
  · intro source listed
    rw [collect_sources, Space.accounts, List.mem_mapIdx] at listed
    obtain ⟨place, _, rfl⟩ := listed
    exact space.account_sum _ _
  · rw [accepted, provenance, addresses, List.length_map, List.length_map]

/-- Three bytes in a space of 32 bits, where 0x100001000 is another name of 0x1000. -/
def aliasedSpace : Space := ⟨.rva32, [{ base := 0x1000, bytes := #[0x90, 0x90, 0xc3] }]⟩

def aliasedOffers : List Offer :=
  [⟨"entry", [0x100001000, 0, 0x1000, 0x5000, 0x5000]⟩, ⟨"exports", [0x1002, 0x100000000, 0x1000]⟩]

theorem collect_aliased :
    (collect aliasedSpace aliasedOffers).addresses = [0x1000, 0x1002] ∧
    ((0x1002 : UInt64) ≠ 0 ∧ aliasedSpace.contains 0x1002 = true) ∧
    (collect aliasedSpace aliasedOffers).provenance.map some = [some 0, some 1] ∧
    (collect aliasedSpace aliasedOffers).originOf? 0x1002 = some "exports" ∧
    (collect aliasedSpace aliasedOffers).summary.sources =
      [{ name := "entry", candidates := 5, added := 1, skippedZero := 1, skippedNotExecutable := 2,
         skippedDuplicate := 1 },
       { name := "exports", candidates := 3, added := 1, skippedZero := 1, skippedDuplicate := 1 }] ∧
    (collect aliasedSpace aliasedOffers).summary.accepted = 2 := by
  obtain ⟨⟨addresses, _, admitted⟩, ⟨places, origin⟩, ⟨sources, _⟩, _, accepted, _⟩ :=
    collect_first_occurrences aliasedSpace aliasedOffers
  have kept : aliasedSpace.accepted (aliasedSpace.offered aliasedOffers) = [0x1000, 0x1002] := by decide
  rw [addresses, kept] at places accepted
  rw [addresses, kept] at origin admitted
  exact ⟨addresses.trans kept, admitted 0x1002 (by decide), places.trans (by decide),
    (origin 0x1002).trans (by decide), sources.trans (by decide), accepted⟩

end SeedSet

end IsaCensus
