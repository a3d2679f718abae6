import ComposeKube.Lib.Keyed
import ComposeKube.Convert.Pod

/-!
# Host aliases

`toHostAliases` reads entries `host:ip` and lists, for each address, the hosts that
have it. It goes through two maps: from the hosts to their addresses, where a later
entry for a host replaces an earlier one, and from the addresses to their hosts. The
loops over both maps run in any order.

So the result is the inverse of the list of entries, read from its end:

* `lookup_hostAddresses` — the first map holds the last entry of each host.
* `mem_hostAliases` — an alias is an address of the first map, with the hosts that have
  it.
* `toHostAliases_inverse` — when the conversion fails, and the result for all orders.
-/

namespace ComposeKube

open Go

/-! ## Entries -/

/-- The host of an entry: what is before its first colon. -/
def hostPart (entry : String) : String := String.ofList (entry.toList.takeWhile (· ≠ ':'))

/-- The entry for a host and its address. -/
def hostEntry (host ip : String) : String := host ++ ":" ++ ip

theorem hostPart_hostEntry {host : String} (h : ':' ∉ host.toList) (ip : String) :
    hostPart (hostEntry host ip) = host := by
  have htext : (hostEntry host ip).toList = host.toList ++ ':' :: ip.toList := by
    simp [hostEntry]
  unfold hostPart
  rw [htext, List.takeWhile_append_of_pos (forall_ne_of_notMem h)]
  simp

theorem hostEntry_inj (host ip ip' : String) :
    hostEntry host ip = hostEntry host ip' ↔ ip = ip' := by
  simp [hostEntry, ← String.toList_inj]

/-- An entry with a colon is read as its host and its address. -/
theorem cut_of_mem {entry : String} (h : ':' ∈ entry.toList) :
    ∃ host ip, cut ':' entry = some (host, ip) ∧ entry = hostEntry host ip ∧
      hostPart entry = host := by
  obtain ⟨host, ip, rfl, hhost⟩ := exists_cut_of_mem h
  exact ⟨host, ip, cut_append hhost ip, rfl, hostPart_hostEntry hhost ip⟩

/-! ## The addresses of the hosts -/

/-- One entry of the first loop. -/
def addHost (byHostnames : Map String) (entry : String) : Except String (Map String) :=
  match cut ':' entry with
  | none => .error ("malformed host " ++ entry)
  | some (host, ip) => .ok (byHostnames.insert host ip)

/-- The loop over the entries. -/
theorem hostAddresses_eq (entries : List String) :
    hostAddresses entries = entries.foldlM addHost ∅ :=
  rfl

theorem addHost_of_mem {entry : String} (h : ':' ∈ entry.toList) (byHostnames : Map String) :
    ∃ ip, entry = hostEntry (hostPart entry) ip ∧
      addHost byHostnames entry = .ok (byHostnames.insert (hostPart entry) ip) := by
  obtain ⟨host, ip, hcut, hentry, rfl⟩ := cut_of_mem h
  refine ⟨ip, hentry, ?_⟩
  unfold addHost
  rw [hcut]

/-- An entry is accepted when it has a colon. -/
theorem addHost_eq_ok_iff (byHostnames : Map String) {entry : String} :
    (∃ m, addHost byHostnames entry = .ok m) ↔ ':' ∈ entry.toList := by
  constructor
  · rintro ⟨m, hm⟩
    by_contra hnotMem
    unfold addHost at hm
    rw [cut_of_notMem hnotMem] at hm
    cases hm
  · intro h
    obtain ⟨ip, -, hok⟩ := addHost_of_mem h byHostnames
    exact ⟨_, hok⟩

theorem foldlM_addHost_eq_ok_iff {entries : List String} {byHostnames : Map String} :
    (∃ m, entries.foldlM addHost byHostnames = .ok m) ↔ ∀ entry ∈ entries, ':' ∈ entry.toList := by
  induction entries generalizing byHostnames with
  | nil => simp [pure, Except.pure]
  | cons entry rest ih =>
    rw [List.foldlM_cons, List.forall_mem_cons, ← addHost_eq_ok_iff byHostnames]
    constructor
    · rintro ⟨m, hm⟩
      obtain ⟨m', hm', hrest⟩ := bind_eq_ok.mp hm
      exact ⟨⟨m', hm'⟩, ih.mp ⟨m, hrest⟩⟩
    · rintro ⟨⟨m', hm'⟩, hrest⟩
      rw [hm', ok_bind]
      exact ih.mpr hrest

/-- The loop, from any map: a host of the entries has the address of its last entry, any
other host what it had. -/
theorem lookup_foldlM_addHost {entries : List String} {byHostnames m : Map String}
    (h : entries.foldlM addHost byHostnames = .ok m) (host ip : String) :
    m.lookup host = some ip ↔
      lastWith hostPart entries host = some (hostEntry host ip) ∨
        lastWith hostPart entries host = none ∧ byHostnames.lookup host = some ip := by
  induction entries generalizing byHostnames with
  | nil =>
    obtain rfl := pure_eq_ok.mp h
    simp [lastWith]
  | cons entry rest ih =>
    -- the entry was accepted, so that it has a colon
    have hcolon := foldlM_addHost_eq_ok_iff.mp ⟨m, h⟩ entry (List.mem_cons_self ..)
    obtain ⟨address, hentry, hok⟩ := addHost_of_mem hcolon byHostnames
    rw [List.foldlM_cons, hok, ok_bind] at h
    rw [ih h, lastWith_cons]
    cases lastWith hostPart rest host with
    | some last => simp
    | none =>
      by_cases hhost : hostPart entry = host
      · -- the entry is the last one for the host
        subst hhost
        have hinj := hostEntry_inj (hostPart entry) address ip
        rw [← hentry] at hinj
        simp [hinj]
      · rw [if_neg hhost, Finmap.lookup_insert_of_ne _ (Ne.symm hhost)]
        simp

/-- **The last entry for a host counts.** -/
theorem lookup_hostAddresses {entries : List String} {byHostnames : Map String}
    (h : hostAddresses entries = .ok byHostnames) (host ip : String) :
    byHostnames.lookup host = some ip ↔
      lastWith hostPart entries host = some (hostEntry host ip) := by
  rw [lookup_foldlM_addHost h, Finmap.lookup_empty]
  simp

/-- Every host of the entries has an address. -/
theorem exists_hostAddress {entries : List String} {byHostnames : Map String}
    (h : hostAddresses entries = .ok byHostnames) {entry : String} (hentry : entry ∈ entries) :
    ∃ ip, byHostnames.lookup (hostPart entry) = some ip := by
  obtain ⟨last, hlast⟩ := exists_lastWith_of_mem hostPart hentry
  obtain ⟨hmem, hpart⟩ := lastWith_eq_some hlast
  have hcolon := foldlM_addHost_eq_ok_iff.mp ⟨byHostnames, h⟩ last hmem
  obtain ⟨host, ip, -, hentry', hhost⟩ := cut_of_mem hcolon
  refine ⟨ip, (lookup_hostAddresses h _ ip).mpr ?_⟩
  rw [hlast, ← hpart, hhost, ← hentry']

/-! ## The aliases -/

section Aliases

variable (ord : ServiceOrder) (byHostnames : Map String)

/-- The hosts that have an address, in some order. -/
def hostsOf (ip : String) : List String := keysWith (ord.range .byHostnames byHostnames) ip

theorem mem_hostsOf {host ip : String} :
    host ∈ hostsOf ord byHostnames ip ↔ byHostnames.lookup host = some ip := by
  rw [hostsOf, mem_keysWith, ord.mem_range]

/-- An alias lists the hosts of an address that some host has. -/
theorem mem_hostAliases {a : HostAlias} :
    a ∈ hostAliases ord byHostnames ↔ hostsOf ord byHostnames a.ip ≠ [] ∧
      a.hostnames = some (sortStrings (hostsOf ord byHostnames a.ip)) := by
  -- an address has a group when some host maps to it
  have hgroup : ∀ ip hosts,
      (ip, hosts) ∈ ord.range .byIPs (groupByValue (ord.range .byHostnames byHostnames)) ↔
        hostsOf ord byHostnames ip ≠ [] ∧ hosts = hostsOf ord byHostnames ip := by
    intro ip hosts
    rw [ord.mem_range, lookup_groupByValue, ← hostsOf]
    by_cases hnil : hostsOf ord byHostnames ip = []
    · simp [hnil]
    · simp [hnil, eq_comm]
  unfold hostAliases
  rw [(sortBy_perm _ _).mem_iff, List.mem_map]
  constructor
  · rintro ⟨⟨ip, hosts⟩, hmem, rfl⟩
    obtain ⟨hne, rfl⟩ := (hgroup ip hosts).mp hmem
    exact ⟨hne, rfl⟩
  · rintro ⟨hne, hhostnames⟩
    refine ⟨(a.ip, _), (hgroup a.ip _).mpr ⟨hne, rfl⟩, ?_⟩
    show ({ ip := a.ip, hostnames := some (sortStrings _) } : HostAlias) = a
    rw [← hhostnames]

/-- The addresses are in strictly ascending order. -/
theorem hostAliases_strict :
    (hostAliases ord byHostnames).Pairwise fun a b => a.ip < b.ip := by
  unfold hostAliases
  refine sortBy_strict _ ?_
  rw [List.map_map]
  exact ord.nodup_range _ _

variable {ord byHostnames}

theorem hostnames_of_mem {a : HostAlias} (ha : a ∈ hostAliases ord byHostnames) :
    a.hostnames.elems ≠ [] ∧ a.hostnames.elems.Pairwise (· < ·) := by
  obtain ⟨hne, hhostnames⟩ := (mem_hostAliases ord byHostnames).mp ha
  have hnodup : (hostsOf ord byHostnames a.ip).Nodup := keysWith_nodup (ord.nodup_range _ _) _
  rw [hhostnames, Slice.elems_some, sortStrings]
  refine ⟨fun hnil => hne ?_, sortBy_strict id (by simpa using hnodup)⟩
  exact (List.nil_perm.mp (hnil ▸ sortBy_perm id _))

theorem mem_hostnames_iff {a : HostAlias} (ha : a ∈ hostAliases ord byHostnames) {host : String} :
    host ∈ a.hostnames.elems ↔ byHostnames.lookup host = some a.ip := by
  obtain ⟨-, hhostnames⟩ := (mem_hostAliases ord byHostnames).mp ha
  rw [hhostnames, Slice.elems_some, sortStrings, (sortBy_perm id _).mem_iff, mem_hostsOf]

/-- A host is listed under its address and nowhere else. -/
theorem exists_alias_iff {host ip : String} :
    (∃ a ∈ hostAliases ord byHostnames, a.ip = ip ∧ host ∈ a.hostnames.elems) ↔
      byHostnames.lookup host = some ip := by
  constructor
  · rintro ⟨a, ha, rfl, hhost⟩
    exact (mem_hostnames_iff ha).mp hhost
  · intro hlookup
    have hhost := (mem_hostsOf ord byHostnames).mpr hlookup
    have ha := (mem_hostAliases ord byHostnames
      (a := { ip, hostnames := some (sortStrings (hostsOf ord byHostnames ip)) })).mpr
      ⟨List.ne_nil_of_mem hhost, rfl⟩
    exact ⟨_, ha, rfl, (mem_hostnames_iff ha).mpr hlookup⟩

/-- The lists of hosts have no host in common, and none twice. -/
theorem nodup_flatMap_hostnames :
    ((hostAliases ord byHostnames).flatMap fun a => a.hostnames.elems).Nodup := by
  rw [List.nodup_flatMap]
  constructor
  · intro a ha
    exact (hostnames_of_mem ha).2.imp fun hlt => hlt.ne
  · refine List.Pairwise.imp_of_mem ?_ (hostAliases_strict ord byHostnames)
    intro a b ha hb hlt host hhosta hhostb
    have hips := ((mem_hostnames_iff ha).mp hhosta).symm.trans ((mem_hostnames_iff hb).mp hhostb)
    exact hlt.ne (Option.some.inj hips)

end Aliases

/-! ## The conversion -/

/-- **The aliases invert the list of entries**, in every order of the loops over the
maps. -/
theorem toHostAliases_inverse (ord : ServiceOrder) (extraHosts : Slice String) :
    ((∃ err, toHostAliases ord extraHosts = .error err) ↔
      ∃ entry ∈ extraHosts.elems, ':' ∉ entry.toList) ∧
    ∀ aliases, toHostAliases ord extraHosts = .ok aliases →
      aliases.elems.Pairwise (fun a b => a.ip < b.ip) ∧
      (∀ a ∈ aliases.elems, a.hostnames.elems ≠ [] ∧ a.hostnames.elems.Pairwise (· < ·)) ∧
      (∀ host ip, (∃ a ∈ aliases.elems, a.ip = ip ∧ host ∈ a.hostnames.elems) ↔
        lastWith hostPart extraHosts.elems host = some (hostEntry host ip)) ∧
      ∀ entry ∈ extraHosts.elems,
        (aliases.elems.flatMap fun a => a.hostnames.elems).count (hostPart entry) = 1 := by
  cases extraHosts with
  | none =>
    refine ⟨by simp [toHostAliases], ?_⟩
    intro aliases h
    obtain rfl := Except.ok.inj h
    simp [lastWith]
  | some entries =>
    constructor
    · -- the only error is that of an entry without a colon
      rw [exists_eq_error_iff]
      unfold toHostAliases
      rw [exists_bind_pure_eq_ok, hostAddresses_eq, foldlM_addHost_eq_ok_iff]
      simp
    · intro aliases h
      obtain ⟨byHostnames, hok, hret⟩ := bind_eq_ok.mp h
      obtain rfl := pure_eq_ok.mp hret
      refine ⟨hostAliases_strict ord byHostnames, fun a ha => hostnames_of_mem ha, ?_, ?_⟩
      · intro host ip
        rw [Slice.elems_some, exists_alias_iff, lookup_hostAddresses hok]
        rfl
      · -- the host of an entry is under the address of the last entry for it, and there only
        intro entry hentry
        obtain ⟨ip, hip⟩ := exists_hostAddress hok hentry
        obtain ⟨a, ha, -, hhost⟩ := exists_alias_iff.mpr hip
        exact List.count_eq_one_of_mem nodup_flatMap_hostnames
          (List.mem_flatMap.mpr ⟨a, ha, hhost⟩)

/-- Two entries for one host: the later one counts. -/
theorem toHostAliases_inverse_twoHosts :
    ∃ aliases, toHostAliases (RangeOrder.ascending _) (some ["db:10.0.0.1", "web:10.0.0.1",
        "db:10.0.0.2:80"]) = .ok aliases ∧
      ((∃ a ∈ aliases.elems, a.ip = "10.0.0.2:80" ∧ "db" ∈ a.hostnames.elems) ↔
        lastWith hostPart ["db:10.0.0.1", "web:10.0.0.1", "db:10.0.0.2:80"] "db" =
          some (hostEntry "db" "10.0.0.2:80")) := by
  have hok : toHostAliases (RangeOrder.ascending _) (some ["db:10.0.0.1", "web:10.0.0.1",
      "db:10.0.0.2:80"]) = .ok (some [{ ip := "10.0.0.1", hostnames := some ["web"] },
        { ip := "10.0.0.2:80", hostnames := some ["db"] }]) := by
    decide
  obtain ⟨-, -, hlisted, -⟩ := (toHostAliases_inverse _ _).2 _ hok
  exact ⟨_, hok, hlisted "db" "10.0.0.2:80"⟩

end ComposeKube
