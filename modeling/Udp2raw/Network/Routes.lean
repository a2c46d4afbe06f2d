import Udp2raw.Data.Routing
import Udp2raw.Fault

/-!
# The route to the peer

To send on the link layer the program looks up the system's routing table. A lookup goes
through the masks from the longest to the empty one and stops at the first under which an
entry matches; the search for the direct destination repeats it along the gateways.

Here the lookup is compared with longest-prefix matching, and the search with the path that
it induces.
-/
namespace Udp2raw

/-- `route_info_t`, an entry of the routing table. -/
structure RouteInfo where
  /-- The interface. -/
  ifName : String
  /-- The network. -/
  dest : UInt32
  /-- The mask of the network. -/
  mask : UInt32
  /-- The gateway. -/
  gw : UInt32
  /-- The flags of the entry. -/
  flag : UInt32
  deriving DecidableEq

/-- The mask that round `i` of `find_route_entry` asks for. The last shift would be by the
width of the word, so its result is replaced. -/
def routeMask (i : Nat) : UInt32 := if i = 32 then 0 else 0xffffffff <<< UInt32.ofNat i

/-- The loop of one round of `find_route_entry`, from entry `j` on. -/
def findUnderMask (mask ip : UInt32) : List RouteInfo → Nat → List Nat → List Nat
  | [], _, res => res
  | info :: rest, j, res =>
    if info.mask ≠ mask then findUnderMask mask ip rest (j + 1) res
    else if info.dest &&& mask = ip &&& mask then findUnderMask mask ip rest (j + 1) (res ++ [j])
    else findUnderMask mask ip rest (j + 1) res

/-- The rounds of `find_route_entry`, from round `i` on. -/
def findRounds (routes : List RouteInfo) (ip : UInt32) : Nat → Nat → List Nat → List Nat
  | 0, _, res => res
  | rounds + 1, i, res =>
    let res := findUnderMask (routeMask i) ip routes 0 res
    if res.length ≠ 0 then res else findRounds routes ip rounds (i + 1) res

/-- `find_route_entry`. An `int` can name every index of a table of the system. -/
def findRouteEntry (routes : List RouteInfo) (ip : UInt32) : List Nat :=
  findRounds routes ip 33 0 []

/-- The rounds of `find_direct_dest`: `dest_ip` and `if_name`, or nothing for its `-1`. -/
def findDirectDestWithin (routes : List RouteInfo) :
    Nat → UInt32 → Exec (Option (UInt32 × String))
  | 0, _ => .ok none
  | rounds + 1, ip =>
    match findRouteEntry routes ip with
    | [] => .ok none
    | [entry] =>
      match routes[entry]? with
      | none => .error (.undefined "route_info_vec[res[0]]")
      | some info =>
        if info.flag &&& 2 = 0 then .ok (some (ip, info.ifName))
        else findDirectDestWithin routes rounds info.gw
    | _ :: _ :: _ => .ok none

/-- `find_direct_dest`. -/
def findDirectDest (routes : List RouteInfo) (ip : UInt32) : Exec (Option (UInt32 × String)) :=
  findDirectDestWithin routes 1000 ip

/-! ## Longest-prefix matching -/

/-- The mask whose first bits are one. -/
def prefixMask (length : Nat) : UInt32 := UInt32.ofNat (2 ^ 32 - 2 ^ (32 - length))

/-- An entry for a network whose prefix of this length the address shares. -/
structure RouteInfo.Matches (info : RouteInfo) (length : Nat) (ip : UInt32) : Prop where
  /-- The entry is for a prefix of this length. -/
  mask : info.mask = prefixMask length
  /-- The address has the prefix. -/
  network : info.dest.toNat / 2 ^ (32 - length) = ip.toNat / 2 ^ (32 - length)

/-- The entry at an index matches under the longest prefix under which any entry does. -/
def LongestMatch (routes : List RouteInfo) (ip : UInt32) (entry : Nat) : Prop :=
  ∃ length ≤ 32, (∃ info, routes[entry]? = some info ∧ info.Matches length ip) ∧
    ∀ longer ≤ 32, length < longer → ∀ other ∈ routes, ¬other.Matches longer ip

/-- The entry is the only longest match. -/
def OnlyMatch (routes : List RouteInfo) (ip : UInt32) (info : RouteInfo) : Prop :=
  ∃ entry, routes[entry]? = some info ∧ ∀ other, LongestMatch routes ip other ↔ other = entry

open Classical in
/-- Where the only longest match for an address leads: to the address itself over its
interface, or to its gateway. Without one the path ends. -/
noncomputable def nextHop (routes : List RouteInfo) (ip : UInt32) : Hop UInt32 (UInt32 × String) :=
  if only : ∃ info, OnlyMatch routes ip info then
    let info := only.choose
    if info.flag &&& 2 = 0 then .arrived (ip, info.ifName) else .next info.gw
  else .stuck

/-! ## The rounds -/

variable {routes : List RouteInfo} {ip : UInt32}

/-- The round of each mask asks for one prefix length. -/
theorem routeMask_eq (i : Nat) (inside : i ≤ 32) : routeMask i = prefixMask (32 - i) := by
  have every : ∀ i : Fin 33, routeMask i = prefixMask (32 - i) := by decide
  exact every ⟨i, Nat.lt_succ_of_le inside⟩

/-- The mask of a prefix as a number. -/
theorem prefixMask_toNat (length : Nat) :
    (prefixMask length).toNat = 2 ^ 32 - 2 ^ (32 - length) := by
  have positive : 0 < 2 ^ (32 - length) := Nat.two_pow_pos _
  rw [prefixMask, UInt32.toNat_ofNat', Nat.mod_eq_of_lt (by omega)]

/-- Two addresses agree under the mask of a prefix exactly when they share it. -/
theorem and_prefixMask_eq_iff (length : Nat) (one other : UInt32) :
    one &&& prefixMask length = other &&& prefixMask length ↔
      one.toNat / 2 ^ (32 - length) = other.toNat / 2 ^ (32 - length) := by
  rw [← UInt32.toNat_inj, UInt32.toNat_and, UInt32.toNat_and, prefixMask_toNat]
  exact land_highBits_eq_iff 32 (32 - length) _ _ (Nat.sub_le _ _) one.toNat_lt other.toNat_lt

/-- The entries that the loop of a round looks for are those that match. -/
theorem RouteInfo.matches_iff (info : RouteInfo) (length : Nat) :
    info.Matches length ip ↔
      info.mask = prefixMask length ∧
        info.dest &&& prefixMask length = ip &&& prefixMask length := by
  rw [and_prefixMask_eq_iff]
  exact ⟨fun found => ⟨found.mask, found.network⟩, fun found => ⟨found.1, found.2⟩⟩

/-- One round collects the indices of the entries under its mask. -/
theorem findUnderMask_eq (mask : UInt32) (j : Nat) (res : List Nat) :
    findUnderMask mask ip routes j res = res ++ ((routes.zipIdx j).filter fun entry =>
      entry.1.mask = mask ∧ entry.1.dest &&& mask = ip &&& mask).map Prod.snd := by
  induction routes generalizing j res with
  | nil => simp [findUnderMask]
  | cons info rest ih =>
    rw [findUnderMask, List.zipIdx_cons]
    by_cases same : info.mask = mask
    · rw [if_neg (not_not_intro same)]
      by_cases inside : info.dest &&& mask = ip &&& mask
      · rw [if_pos inside, ih, List.filter_cons_of_pos (by simp [same, inside])]
        simp
      · rw [if_neg inside, ih, List.filter_cons_of_neg (by simp [inside])]
    · rw [if_pos same, ih, List.filter_cons_of_neg (by simp [same])]

/-- An index is collected in a round exactly when its entry matches. -/
theorem mem_findUnderMask_iff (length entry : Nat) :
    entry ∈ findUnderMask (prefixMask length) ip routes 0 [] ↔
      ∃ info, routes[entry]? = some info ∧ info.Matches length ip := by
  rw [findUnderMask_eq, List.nil_append]
  simp only [List.mem_map, List.mem_filter, Prod.exists, List.mem_zipIdx_iff_getElem?,
    exists_eq_right, decide_eq_true_eq, RouteInfo.matches_iff]

/-- A round names the indices in their order, each one once. -/
theorem findUnderMask_sorted (mask : UInt32) :
    (findUnderMask mask ip routes 0 []).Pairwise (· < ·) := by
  rw [findUnderMask_eq, List.nil_append]
  have inOrder : (routes.zipIdx.map Prod.snd).Pairwise (· < ·) := by
    rw [List.zipIdx_map_snd]
    exact List.pairwise_lt_range'
  exact inOrder.sublist (List.Sublist.map _ List.filter_sublist)

/-- Without a match in a round the next one goes on with an empty list. -/
theorem findRounds_succ (rounds i : Nat) :
    findRounds routes ip (rounds + 1) i [] =
      if findUnderMask (routeMask i) ip routes 0 [] = [] then findRounds routes ip rounds (i + 1) []
      else findUnderMask (routeMask i) ip routes 0 [] := by
  rw [findRounds]
  by_cases nothing : findUnderMask (routeMask i) ip routes 0 [] = []
  · simp [nothing]
  · simp [nothing]

/-- The rounds name an index exactly when the first of them with a match collects it. -/
theorem mem_findRounds_iff (rounds i entry : Nat) :
    entry ∈ findRounds routes ip rounds i [] ↔
      ∃ first, i ≤ first ∧ first < i + rounds ∧
        entry ∈ findUnderMask (routeMask first) ip routes 0 [] ∧
        ∀ earlier, i ≤ earlier → earlier < first →
          findUnderMask (routeMask earlier) ip routes 0 [] = [] := by
  induction rounds generalizing i with
  | zero =>
    constructor
    · intro inside
      simp [findRounds] at inside
    · rintro ⟨first, after, before, -⟩
      omega
  | succ rounds ih =>
    rw [findRounds_succ]
    by_cases nothing : findUnderMask (routeMask i) ip routes 0 [] = []
    · rw [if_pos nothing, ih]
      constructor
      · rintro ⟨first, after, before, inside, rest⟩
        refine ⟨first, Nat.le_of_succ_le after, by omega, inside, fun earlier from_ early => ?_⟩
        obtain rfl | later := Nat.eq_or_lt_of_le from_
        · exact nothing
        · exact rest earlier later early
      · rintro ⟨first, after, before, inside, rest⟩
        have later : i ≠ first := by
          rintro rfl
          rw [nothing] at inside
          contradiction
        exact ⟨first, by omega, by omega, inside,
          fun earlier from_ early => rest earlier (Nat.le_of_succ_le from_) early⟩
    · rw [if_neg nothing]
      constructor
      · intro inside
        exact ⟨i, Nat.le_refl i, by omega, inside, fun earlier from_ early => by omega⟩
      · rintro ⟨first, after, before, inside, rest⟩
        -- A later round would find this one empty.
        obtain rfl | later := Nat.eq_or_lt_of_le after
        · exact inside
        · exact absurd (rest i (Nat.le_refl i) later) nothing

/-- The rounds name the indices in their order, each one once. -/
theorem findRounds_sorted (rounds i : Nat) :
    (findRounds routes ip rounds i []).Pairwise (· < ·) := by
  induction rounds generalizing i with
  | zero => exact List.Pairwise.nil
  | succ rounds ih =>
    rw [findRounds_succ]
    by_cases nothing : findUnderMask (routeMask i) ip routes 0 [] = []
    · rw [if_pos nothing]
      exact ih (i + 1)
    · rw [if_neg nothing]
      exact findUnderMask_sorted _

/-- A round collects nothing exactly when no entry matches under its mask. -/
theorem findUnderMask_eq_nil_iff (length : Nat) :
    findUnderMask (prefixMask length) ip routes 0 [] = [] ↔
      ∀ info ∈ routes, ¬info.Matches length ip := by
  rw [List.eq_nil_iff_forall_not_mem]
  simp only [mem_findUnderMask_iff, not_exists, not_and]
  constructor
  · intro none info inside
    obtain ⟨entry, place⟩ := List.mem_iff_getElem?.mp inside
    exact none entry info place
  · intro none entry info place
    exact none info (List.mem_of_getElem? place)

/-- The lookup names exactly the longest matches. -/
theorem mem_findRouteEntry_iff (entry : Nat) :
    entry ∈ findRouteEntry routes ip ↔ LongestMatch routes ip entry := by
  rw [findRouteEntry, mem_findRounds_iff]
  constructor
  · rintro ⟨first, -, inside, found, before⟩
    rw [routeMask_eq first (by omega), mem_findUnderMask_iff] at found
    refine ⟨32 - first, Nat.sub_le _ _, found, fun longer short more => ?_⟩
    have nothing := before (32 - longer) (Nat.zero_le _) (by omega)
    rw [routeMask_eq _ (Nat.sub_le _ _), Nat.sub_sub_self short] at nothing
    exact (findUnderMask_eq_nil_iff longer).mp nothing
  · rintro ⟨length, short, found, longest⟩
    refine ⟨32 - length, Nat.zero_le _, by omega, ?_, fun earlier _ early => ?_⟩
    · rw [routeMask_eq _ (Nat.sub_le _ _), Nat.sub_sub_self short]
      exact (mem_findUnderMask_iff length entry).mpr found
    · rw [routeMask_eq _ (by omega)]
      exact (findUnderMask_eq_nil_iff _).mpr (longest _ (Nat.sub_le _ _) (by omega))

/-- A longest match is an entry of the table. -/
theorem LongestMatch.getElem? {entry : Nat} (longest : LongestMatch routes ip entry) :
    ∃ info, routes[entry]? = some info := by
  obtain ⟨-, -, ⟨info, place, -⟩, -⟩ := longest
  exact ⟨info, place⟩

/-! ## The walk along the gateways -/

/-- The only longest match is determined. -/
theorem OnlyMatch.unique {one other : RouteInfo} (left : OnlyMatch routes ip one)
    (right : OnlyMatch routes ip other) : one = other := by
  obtain ⟨entry, place, only⟩ := left
  obtain ⟨entry', place', only'⟩ := right
  have same : entry = entry' := (only' entry).mp ((only entry).mpr rfl)
  rw [same, place'] at place
  exact (Option.some.inj place).symm

/-- Where an only longest match leads. -/
theorem nextHop_of_only {info : RouteInfo} (only : OnlyMatch routes ip info) :
    nextHop routes ip =
      if info.flag &&& 2 = 0 then .arrived (ip, info.ifName) else .next info.gw := by
  have found : ∃ info, OnlyMatch routes ip info := ⟨info, only⟩
  have same : found.choose = info := found.choose_spec.unique only
  rw [nextHop, dif_pos found]
  simp only [same]

/-- Without an only longest match the path ends. -/
theorem nextHop_of_not_only (none : ∀ info, ¬OnlyMatch routes ip info) :
    nextHop routes ip = .stuck := by
  rw [nextHop, dif_neg (not_exists.mpr none)]

/-- The path arrives at an address whose only longest match has no gateway. -/
theorem nextHop_eq_arrived_iff (dest : UInt32) (ifName : String) :
    nextHop routes ip = .arrived (dest, ifName) ↔
      ip = dest ∧
        ∃ info, OnlyMatch routes ip info ∧ info.flag &&& 2 = 0 ∧ info.ifName = ifName := by
  constructor
  · intro arrives
    by_cases any : ∃ info, OnlyMatch routes ip info
    · obtain ⟨info, only⟩ := any
      rw [nextHop_of_only only] at arrives
      by_cases direct : info.flag &&& 2 = 0
      · rw [if_pos direct] at arrives
        cases arrives
        exact ⟨rfl, info, only, direct, rfl⟩
      · rw [if_neg direct] at arrives
        cases arrives
    · rw [nextHop_of_not_only (not_exists.mp any)] at arrives
      cases arrives
  · rintro ⟨rfl, info, only, direct, rfl⟩
    rw [nextHop_of_only only, if_pos direct]

/-- The search is the walk along the next hops. -/
theorem findDirectDestWithin_eq (rounds : Nat) :
    findDirectDestWithin routes rounds ip = .ok (walk (nextHop routes) rounds ip) := by
  induction rounds generalizing ip with
  | zero => rfl
  | succ rounds ih =>
    rw [findDirectDestWithin, walk]
    have named (entry : Nat) : entry ∈ findRouteEntry routes ip ↔ LongestMatch routes ip entry :=
      mem_findRouteEntry_iff entry
    have sorted : (findRouteEntry routes ip).Pairwise (· < ·) := findRounds_sorted 33 0
    cases found : findRouteEntry routes ip with
    | nil =>
      have none : ∀ info, ¬OnlyMatch routes ip info := by
        rintro info ⟨entry, -, only⟩
        have inside := (named entry).mpr ((only entry).mpr rfl)
        rw [found] at inside
        contradiction
      simp only [nextHop_of_not_only none]
    | cons entry more =>
      rw [found] at named sorted
      cases more with
      | nil =>
        obtain ⟨info, place⟩ := ((named entry).mp (List.mem_singleton.mpr rfl)).getElem?
        have only : OnlyMatch routes ip info :=
          ⟨entry, place, fun other => (named other).symm.trans List.mem_singleton⟩
        simp only [place, nextHop_of_only only]
        by_cases direct : info.flag &&& 2 = 0
        · simp only [if_pos direct]
        · simp only [if_neg direct]
          exact ih
      | cons second rest =>
        have none : ∀ info, ¬OnlyMatch routes ip info := by
          rintro info ⟨only, -, same⟩
          have one := (same entry).mp ((named entry).mp (by simp))
          have two := (same second).mp ((named second).mp (by simp))
          have apart : entry < second := (List.pairwise_cons.mp sorted).1 second (by simp)
          omega
        simp only [nextHop_of_not_only none]

/-- The path ends where no entry matches or several match equally long. -/
theorem nextHop_eq_stuck_iff :
    nextHop routes ip = .stuck ↔
      (∀ entry, ¬LongestMatch routes ip entry) ∨
        ∃ one other, one ≠ other ∧ LongestMatch routes ip one ∧ LongestMatch routes ip other := by
  constructor
  · intro stuck
    by_cases any : ∃ entry, LongestMatch routes ip entry
    · right
      obtain ⟨one, longest⟩ := any
      obtain ⟨info, place⟩ := longest.getElem?
      by_contra alone
      have only : OnlyMatch routes ip info := by
        refine ⟨one, place, fun other => ⟨fun also => ?_, fun same => same ▸ longest⟩⟩
        by_contra apart
        exact alone ⟨other, one, apart, also, longest⟩
      rw [nextHop_of_only only] at stuck
      split at stuck <;> contradiction
    · exact .inl (not_exists.mp any)
  · intro lost
    refine nextHop_of_not_only fun info only => ?_
    obtain ⟨entry, -, same⟩ := only
    obtain none | ⟨one, other, apart, left, right⟩ := lost
    · exact none entry ((same entry).mpr rfl)
    · exact apart (((same one).mp left).trans ((same other).mp right).symm)

/-- The lookup names exactly the longest matches, each one once. The search of the direct
destination gives the address and the interface at the end of the path along the only
longest matches, and nothing exactly when this path meets an address without a match or
with several ones, or has a thousand gateways; so it gives nothing when the path goes
round. -/
theorem findRouteEntry_longest_findDirectDest_path (routes : List RouteInfo) (ip : UInt32) :
    ((∀ entry, entry ∈ findRouteEntry routes ip ↔ LongestMatch routes ip entry) ∧
      (findRouteEntry routes ip).Pairwise (· < ·)) ∧
    (∀ dest ifName, findDirectDest routes ip = .ok (some (dest, ifName)) ↔
      ∃ hops < 1000, Path (nextHop routes) ip hops dest ∧
        ∃ info, OnlyMatch routes dest info ∧ info.flag &&& 2 = 0 ∧ info.ifName = ifName) ∧
    (findDirectDest routes ip = .ok none ↔
      (∃ hops < 1000, ∃ last, Path (nextHop routes) ip hops last ∧
        ((∀ entry, ¬LongestMatch routes last entry) ∨ ∃ one other, one ≠ other ∧
          LongestMatch routes last one ∧ LongestMatch routes last other)) ∨
      ∃ last, Path (nextHop routes) ip 1000 last) ∧
    ∀ hops back length, Path (nextHop routes) ip hops back →
      Path (nextHop routes) back (length + 1) back → findDirectDest routes ip = .ok none := by
  have search : findDirectDest routes ip = .ok (walk (nextHop routes) 1000 ip) :=
    findDirectDestWithin_eq 1000
  refine ⟨⟨mem_findRouteEntry_iff, findRounds_sorted 33 0⟩, ?_, ?_, ?_⟩
  · intro dest ifName
    rw [search, Except.ok.injEq, walk_eq_some_iff]
    constructor
    · rintro ⟨hops, last, few, path, ends⟩
      obtain ⟨rfl, direct⟩ := (nextHop_eq_arrived_iff dest ifName).mp ends
      exact ⟨hops, few, path, direct⟩
    · rintro ⟨hops, few, path, direct⟩
      exact ⟨hops, dest, few, path, (nextHop_eq_arrived_iff dest ifName).mpr ⟨rfl, direct⟩⟩
  · rw [search, Except.ok.injEq, walk_eq_none_iff]
    simp only [nextHop_eq_stuck_iff]
    constructor
    · rintro (⟨hops, last, few, path, ends⟩ | long)
      · exact .inl ⟨hops, few, last, path, ends⟩
      · exact .inr long
    · rintro (⟨hops, few, last, path, ends⟩ | long)
      · exact .inl ⟨hops, last, few, path, ends⟩
      · exact .inr long
  · intro hops back length into around
    rw [search, walk_cycle into around]

end Udp2raw
