import L850GL.Hardware
import L850GL.Lib.TextFormat

/-! What the attestation accepts, and that it leaves no descriptor open. -/
namespace L850GL
namespace Hardware

/-- An absolute device path below `/sys/devices`, as its components. -/
structure CanonicalPath (physdev : CString) (components : List CString) : Prop where
  nonempty : components ≠ []
  path : physdev = "/sys/devices/".toList++['/'].intercalate components
  canonical : ∀ component ∈ components,component ≠ [] ∧ component ≠ ".".toList ∧
    component ≠ "..".toList ∧ '/' ∉ component ∧ component.length ≤ 255
  length : physdev.length ≤ 4096

def resolve : FileNode → List CString → Option FileNode
  | dir, [] => some dir
  | dir, component::components =>
    ((dir.child component).filter (·.isDirectory)).bind fun next => resolve next components

/-- A regular file with an identifier, and at most one newline after it, for all its content. -/
def HoldsId (device : FileNode) (usbAttribute expected : CString) : Prop :=
  ∃ content,device.child usbAttribute = some (.regular content) ∧
    (content = expected ∨ content = expected++['\n'])

/-- Calls fail only as the files make them fail. -/
structure FaultFree (host : Host) : Prop where
  opens : ∀ fails ∈ host.openFails,fails = false
  stats : ∀ fails ∈ host.statFails,fails = false
  reads : ReadEvent.failed ∉ host.reads

variable {host : Host} {sysfsRoot : FileNode} {live : List Nat} {current : Option Descriptor}
  {device : Descriptor} {usbAttribute expected physdev : CString} {components : List CString}

theorem headD_false {fails : List Bool} (h : ∀ fail ∈ fails,fail = false) :
    fails.headD false = false := by
  cases fails with
  | nil => rfl
  | cons fail fails => exact h fail (by simp)

theorem openat_cases (host : Host) (dir : FileNode) (name : CString) (only : Bool) :
    ((host.openat dir name only).2 = none ∧
      (host.openat dir name only).1.descriptors = host.descriptors) ∨
    ∃ descriptor,(host.openat dir name only).2 = some descriptor ∧
      descriptor.fd = host.descriptors.next ∧
      (host.openat dir name only).1.descriptors = host.descriptors.acquire := by
  unfold Host.openat
  split
  · exact .inl ⟨rfl,rfl⟩
  split
  · exact .inl ⟨rfl,rfl⟩
  · exact .inr ⟨_,rfl,rfl,rfl⟩

theorem openat_owes (h : host.descriptors.Owes live) (dir : FileNode) (name : CString)
    (only : Bool) :
    match (host.openat dir name only).2 with
    | none => (host.openat dir name only).1.descriptors.Owes live
    | some descriptor =>
      (host.openat dir name only).1.descriptors.Owes (descriptor.fd::live) := by
  rcases openat_cases host dir name only with ⟨hnone,hsame⟩ | ⟨descriptor,hsome,hfd,hacquired⟩
  · rw [hnone,hsame]
    exact h
  · rw [hsome,hacquired]
    have hnext := h.acquire
    rw [← hfd] at hnext
    exact hnext

theorem openat_faultFree (h : FaultFree host) (dir : FileNode) (name : CString) (only : Bool) :
    FaultFree (host.openat dir name only).1 ∧
      (host.openat dir name only).2.map (·.node) =
        (dir.child name).filter (·.opens only) := by
  have htail : ∀ fails ∈ host.openFails.tail,fails = false := fun fails hfails =>
    h.opens fails (List.mem_of_mem_tail hfails)
  unfold Host.openat
  rw [headD_false h.opens]
  cases hchild : (dir.child name).filter (·.opens only) with
  | none => exact ⟨⟨htail,h.stats,h.reads⟩,by simp⟩
  | some node => exact ⟨⟨htail,h.stats,h.reads⟩,by simp⟩

theorem fstatIs_faultFree (h : FaultFree host) (kind : FileNode → Bool) (node : FileNode) :
    FaultFree (host.fstatIs kind node).1 ∧ (host.fstatIs kind node).2 = kind node := by
  refine ⟨⟨h.opens,fun fails hfails => h.stats fails (List.mem_of_mem_tail hfails),h.reads⟩,?_⟩
  rw [Host.fstatIs,headD_false h.stats]
  rfl

theorem close_faultFree (h : FaultFree host) (fd : Nat) : FaultFree (host.close fd) :=
  ⟨h.opens,h.stats,h.reads⟩

def held (current : Option Descriptor) (live : List Nat) : List Nat :=
  match current with
  | none => live
  | some descriptor => descriptor.fd::live

theorem closeCurrent_owes (h : host.descriptors.Owes (held current live)) :
    (host.closeCurrent current).descriptors.Owes live := by
  cases current with
  | none => exact h
  | some descriptor => exact h.release

theorem closeCurrent_owes_next {fd : Nat} (h : host.descriptors.Owes (fd::held current live)) :
    (host.closeCurrent current).descriptors.Owes (fd::live) := by
  cases current with
  | none => exact h
  | some descriptor => exact (h.perm (.swap _ _ _)).release

theorem closeCurrent_faultFree (h : FaultFree host) (current : Option Descriptor) :
    FaultFree (host.closeCurrent current) := by
  cases current with
  | none => exact h
  | some descriptor => exact close_faultFree h descriptor.fd

/-- The walk holds one descriptor at a time, and none once it has failed. -/
theorem openComponents_owes (sysfsRoot : FileNode) (current : Option Descriptor)
    (components : List CString) (h : host.descriptors.Owes (held current live)) :
    (openComponents host sysfsRoot current components).1.descriptors.Owes
      (held (openComponents host sysfsRoot current components).2 live) := by
  fun_induction openComponents host sysfsRoot current components with
  | case1 => exact h
  | case2 => exact closeCurrent_owes h
  | case3 host current component components _ dir later hopen =>
    have hopened := openat_owes h dir component true
    rw [hopen] at hopened
    exact closeCurrent_owes hopened
  | case4 host current component components _ dir later next hopen ih =>
    have hopened := openat_owes h dir component true
    rw [hopen] at hopened
    exact ih (closeCurrent_owes_next hopened)

def startOf (sysfsRoot : FileNode) (current : Option Descriptor) : FileNode :=
  match current with
  | none => sysfsRoot
  | some descriptor => descriptor.node

theorem isDirectory_opens (node : FileNode) : node.opens true = node.isDirectory := by
  cases node <;> simp [FileNode.opens,FileNode.isDirectory]

theorem bind_filter_isDirectory (node : Option FileNode) (f : FileNode → Option FileNode) :
    (node.filter (·.opens true)).bind f = (node.filter (·.isDirectory)).bind f := by
  simp only [isDirectory_opens]

/-- Without faults the walk ends where the components lead. -/
theorem openComponents_node (h : FaultFree host) (sysfsRoot : FileNode)
    (current : Option Descriptor) (components : List CString)
    (hstart : current.isSome ∨ components ≠ []) :
    FaultFree (openComponents host sysfsRoot current components).1 ∧
      (openComponents host sysfsRoot current components).2.map (·.node) =
        if components.all componentIsCanonical then
          resolve (startOf sysfsRoot current) components
        else none := by
  fun_induction openComponents host sysfsRoot current components with
  | case1 host current =>
    refine ⟨h,?_⟩
    cases current with
    | none => simp at hstart
    | some descriptor => rfl
  | case2 host current component components hcanonical =>
    refine ⟨closeCurrent_faultFree h current,?_⟩
    simp only [Bool.not_eq_true'] at hcanonical
    simp [hcanonical]
  | case3 host current component components hcanonical dir later hopen =>
    obtain ⟨hfree,hnode⟩ := openat_faultFree h dir component true
    rw [hopen] at hfree hnode
    refine ⟨closeCurrent_faultFree hfree current,?_⟩
    have hresolve : resolve (startOf sysfsRoot current) (component::components) = none := by
      rw [resolve,← bind_filter_isDirectory]
      exact congrArg (Option.bind · _) hnode.symm
    rw [hresolve]
    simp
  | case4 host current component components hcanonical dir later next hopen ih =>
    obtain ⟨hfree,hnode⟩ := openat_faultFree h dir component true
    rw [hopen] at hfree hnode
    have hresolve : resolve (startOf sysfsRoot current) (component::components) =
        resolve next.node components := by
      rw [resolve,← bind_filter_isDirectory]
      exact congrArg (Option.bind · _) hnode.symm
    obtain ⟨hlater,hrest⟩ := ih (closeCurrent_faultFree hfree current) (.inl rfl)
    refine ⟨hlater,?_⟩
    simp only [Bool.not_eq_true',Bool.not_eq_false] at hcanonical
    rw [hrest,hresolve]
    simp [hcanonical,startOf]

/-- Whatever the schedule, the loop reads the first six bytes. -/
theorem readLoop_eq (value rest : CString) (events : List ReadEvent)
    (hfailed : .failed ∉ events) (hvalue : value.length ≤ l850glUsbIdLen+2) :
    .failed ∉ (readLoop value rest events).1 ∧
      (readLoop value rest events).2 = some ((value++rest).take (l850glUsbIdLen+2)) := by
  fun_induction readLoop value rest events with
  | case1 value rest =>
    refine ⟨by simp,?_⟩
    rw [List.take_append,List.take_of_length_le hvalue]
  | case2 value rest event events hfull =>
    refine ⟨hfailed,?_⟩
    rw [List.take_append_of_le_length hfull,List.take_of_length_le hvalue]
  | case3 value rest events hfull ih => exact ih (fun h => hfailed (by simp [h])) hvalue
  | case4 => simp at hfailed
  | case5 value events hfull short =>
    refine ⟨fun h => hfailed (by simp [h]),?_⟩
    rw [List.append_nil,List.take_of_length_le hvalue]
  | case6 value rest events hfull short count hrest ih =>
    have hlength : (value++rest.take count).length ≤ l850glUsbIdLen+2 := by
      simp only [List.length_append,List.length_take]
      omega
    obtain ⟨hevents,hread⟩ := ih (fun h => hfailed (by simp [h])) hlength
    refine ⟨hevents,?_⟩
    rw [hread,List.append_assoc,List.take_append_drop]

theorem take_isId {value content expected : CString} (hexpected : expected.length = l850glUsbIdLen)
    (htake : value = content.take (l850glUsbIdLen+2)) :
    ((value.length == l850glUsbIdLen ||
      (value.length == l850glUsbIdLen+1 && value[l850glUsbIdLen]? == some '\n')) &&
        value.take l850glUsbIdLen == expected) = true ↔
      content = expected ∨ content = expected++['\n'] := by
  constructor
  · intro h
    simp only [Bool.and_eq_true,Bool.or_eq_true,beq_iff_eq] at h
    obtain ⟨hlength,hvalue⟩ := h
    have hshort : value.length < l850glUsbIdLen+2 := by
      rcases hlength with hl | ⟨hl,-⟩ <;> omega
    have hwhole : value = content := by
      rw [htake,List.length_take] at hshort
      rw [htake]
      exact List.take_of_length_le (by omega)
    rcases hlength with hl | ⟨hl,hnewline⟩
    · left
      rw [← hvalue,← hwhole,List.take_of_length_le (by omega)]
    · right
      rw [← hwhole,← List.take_append_drop l850glUsbIdLen value,hvalue]
      congr 1
      have hdrop : (value.drop l850glUsbIdLen).length = 1 := by
        rw [List.length_drop]
        omega
      obtain ⟨last,hlast⟩ := List.length_eq_one_iff.mp hdrop
      have hget : (value.drop l850glUsbIdLen)[0]? = some '\n' := by
        rw [List.getElem?_drop]
        exact hnewline
      rw [hlast] at hget ⊢
      simpa using hget
  · rintro (rfl | rfl)
    · have hvalue : value = content := htake.trans (List.take_of_length_le (by omega))
      simp only [hvalue,hexpected,beq_self_eq_true,Bool.true_or,Bool.true_and,beq_iff_eq]
      exact List.take_of_length_le (by omega)
    · have hvalue : value = expected++['\n'] := by
        rw [htake]
        refine List.take_of_length_le ?_
        simp only [List.length_append,List.length_singleton]
        omega
      have htake : (expected++['\n']).take l850glUsbIdLen = expected := by
        rw [← hexpected,List.take_left]
      simp [hvalue,hexpected,htake]

theorem isRegular_iff {node : FileNode} :
    node.isRegular = true ↔ ∃ content,node = .regular content := by
  cases node <;> simp [FileNode.isRegular]

theorem readExactUsbId_owes (h : host.descriptors.Owes live) :
    (readExactUsbId host device usbAttribute expected).1.descriptors.Owes live := by
  have hopened := openat_owes h device.node usbAttribute false
  unfold readExactUsbId
  split
  · rename_i later hopen
    rw [hopen] at hopened
    exact hopened
  · rename_i later descriptor hopen
    rw [hopen] at hopened
    dsimp only
    split
    · exact hopened.release
    · exact hopened.release

/-- Without faults the check is exact. -/
theorem readExactUsbId_iff (h : FaultFree host) (device : Descriptor) (usbAttribute : CString)
    (hexpected : expected.length = l850glUsbIdLen) :
    FaultFree (readExactUsbId host device usbAttribute expected).1 ∧
      ((readExactUsbId host device usbAttribute expected).2 = true ↔
        HoldsId device.node usbAttribute expected) := by
  obtain ⟨hfree,hnode⟩ := openat_faultFree h device.node usbAttribute false
  unfold readExactUsbId
  split
  · rename_i later hopen
    rw [hopen] at hfree hnode
    refine ⟨hfree,?_⟩
    simp only [Bool.false_eq_true,false_iff]
    rintro ⟨content,hchild,-⟩
    rw [hchild] at hnode
    cases hnode
  · rename_i later descriptor hopen
    rw [hopen] at hfree hnode
    have hchild : device.node.child usbAttribute = some descriptor.node :=
      (Option.filter_eq_some_iff.mp hnode.symm).1
    obtain ⟨hstat,hkind⟩ := fstatIs_faultFree hfree FileNode.isRegular descriptor.node
    dsimp only at hstat hkind ⊢
    rw [hkind]
    by_cases hregular : descriptor.node.isRegular = true
    · obtain ⟨content,hcontent⟩ := isRegular_iff.mp hregular
      rw [hcontent] at hchild hstat
      obtain ⟨hevents,hread⟩ := readLoop_eq [] content _ hstat.reads (Nat.zero_le _)
      simp only [hcontent,FileNode.isRegular,Bool.not_true,Bool.false_eq_true,if_false,
        FileNode.content,hread,List.nil_append]
      have hafter : FaultFree {(later.fstatIs FileNode.isRegular (.regular content)).1 with
          reads := (readLoop [] content
            (later.fstatIs FileNode.isRegular (.regular content)).1.reads).1} :=
        ⟨hstat.opens,hstat.stats,hevents⟩
      refine ⟨close_faultFree hafter _,?_⟩
      rw [take_isId hexpected rfl]
      constructor
      · intro hid
        exact ⟨content,hchild,hid⟩
      · rintro ⟨content',hchild',hid⟩
        rw [hchild] at hchild'
        obtain rfl : content = content' := by simpa using hchild'
        exact hid
    · simp only [hregular,Bool.not_false,if_true]
      refine ⟨close_faultFree hstat _,?_⟩
      simp only [Bool.false_eq_true,false_iff]
      rintro ⟨content,hchild',-⟩
      rw [hchild] at hchild'
      exact hregular (isRegular_iff.mpr ⟨content,Option.some.inj hchild'⟩)

theorem componentIsCanonical_iff {component : CString} : componentIsCanonical component = true ↔
    component ≠ [] ∧ component ≠ ".".toList ∧ component ≠ "..".toList ∧
      component.length ≤ 255 := by
  unfold componentIsCanonical l850glComponentMax
  split_ifs with h₁ h₂ h₃
  · simp only [List.length_eq_zero_iff] at h₁
    simp only [false_iff]
    rintro ⟨hne,-,-,hlength⟩
    rcases h₁ with h₁ | h₁
    · exact hne h₁
    · omega
  · simp [h₂]
  · simp [h₃]
  · simp only [List.length_eq_zero_iff,not_or,not_lt] at h₁
    simp only [true_iff]
    exact ⟨h₁.1,h₂,h₃,h₁.2⟩

theorem getLast?_intercalate (components : List CString) (hne : components ≠ [])
    (h : ∀ component ∈ components,component ≠ [] ∧ '/' ∉ component) :
    ['/'].intercalate components ≠ [] ∧ (['/'].intercalate components).getLast? ≠ some '/' := by
  induction components with
  | nil => exact absurd rfl hne
  | cons component components ih =>
    obtain ⟨hcomponent,hslash⟩ := h component (by simp)
    cases components with
    | nil =>
      simp only [List.intercalate_singleton]
      refine ⟨hcomponent,fun hlast => hslash (List.mem_of_getLast? hlast)⟩
    | cons next components =>
      obtain ⟨hrest,hlast⟩ := ih (by simp) fun c hc => h c (List.mem_cons_of_mem _ hc)
      rw [List.intercalate_cons_cons]
      refine ⟨by simp [hcomponent],?_⟩
      rw [List.getLast?_append_of_ne_nil _ hrest]
      exact hlast

theorem splitOn_physdev (tail : CString) :
    ((l850glSysfsPrefix++tail).drop "/sys/".length).splitOn '/' =
      "devices".toList::tail.splitOn '/' := by
  have hdrop : (l850glSysfsPrefix++tail).drop "/sys/".length = "devices".toList++ '/' ::tail := rfl
  obtain ⟨part,parts,hpart,hparts⟩ :=
    TextFormat.splitOn_append_left (show '/' ∉ "devices".toList by decide) ('/'::tail)
  rw [hdrop,hparts]
  rw [List.splitOn_cons_eq_if_modifyHead] at hpart
  simp only [beq_self_eq_true,if_true,List.cons.injEq] at hpart
  rw [← hpart.1,← hpart.2,List.append_nil]

/-- The tests of `open_physdev_at` before and during its walk. -/
structure Walkable (physdev : CString) (components : List CString) : Prop where
  short : physdev.length ≤ l850glPhysdevMax
  long : l850glSysfsPrefix.length < physdev.length
  below : l850glSysfsPrefix <+: physdev
  last : physdev.getLast? ≠ some '/'
  split : (physdev.drop "/sys/".length).splitOn '/' = "devices".toList::components
  canonical : ("devices".toList::components).all componentIsCanonical = true

theorem walkable_iff : Walkable physdev components ↔ CanonicalPath physdev components := by
  constructor
  · rintro ⟨hshort,hlong,⟨tail,rfl⟩,-,hsplit,hcanonical⟩
    rw [splitOn_physdev,List.cons.injEq] at hsplit
    obtain ⟨hne,hslash,htail⟩ := TextFormat.splitOn_eq_iff.mp hsplit.2
    refine ⟨hne,by rw [htail]; rfl,fun component hcomponent => ?_,hshort⟩
    have hall := List.all_eq_true.mp hcanonical component (List.mem_cons_of_mem _ hcomponent)
    obtain ⟨h₁,h₂,h₃,h₄⟩ := componentIsCanonical_iff.mp hall
    exact ⟨h₁,h₂,h₃,hslash component hcomponent,h₄⟩
  · rintro ⟨hne,rfl,hcanonical,hshort⟩
    obtain ⟨htail,hlast⟩ := getLast?_intercalate components hne fun component hcomponent =>
      ⟨(hcanonical component hcomponent).1,(hcanonical component hcomponent).2.2.2.1⟩
    constructor
    · exact hshort
    · have hpos := List.length_pos_iff.mpr htail
      have hroot : l850glSysfsPrefix = "/sys/devices/".toList := rfl
      rw [hroot,List.length_append]
      omega
    · exact List.prefix_append _ _
    · rw [List.getLast?_append_of_ne_nil _ htail]
      exact hlast
    · refine (splitOn_physdev _).trans (congrArg _ (TextFormat.splitOn_eq_iff.mpr ?_))
      exact ⟨hne,fun component hcomponent => (hcanonical component hcomponent).2.2.2.1,rfl⟩
    · refine List.all_eq_true.mpr fun component hcomponent => ?_
      rcases List.mem_cons.mp hcomponent with rfl | hcomponent
      · decide
      · obtain ⟨h₁,h₂,h₃,-,h₄⟩ := hcanonical component hcomponent
        exact componentIsCanonical_iff.mpr ⟨h₁,h₂,h₃,h₄⟩

theorem openPhysdevAt_owes (h : host.descriptors.Owes live) (sysfsRoot : FileNode)
    (physdev : CString) :
    (openPhysdevAt host sysfsRoot physdev).1.descriptors.Owes
      (held (openPhysdevAt host sysfsRoot physdev).2 live) := by
  unfold openPhysdevAt
  dsimp only
  split
  · exact h
  split
  · exact h
  split
  · exact h
  · exact openComponents_owes sysfsRoot none _ h

/-- Without faults exactly the canonical paths of directories are opened. -/
theorem openPhysdevAt_node (h : FaultFree host) (sysfsRoot : FileNode) (physdev : CString)
    (node : FileNode) :
    FaultFree (openPhysdevAt host sysfsRoot physdev).1 ∧
      ((openPhysdevAt host sysfsRoot physdev).2.map (·.node) = some node ↔
        ∃ components,CanonicalPath physdev components ∧
          resolve sysfsRoot ("devices".toList::components) = some node) := by
  obtain ⟨hstat,hkind⟩ := fstatIs_faultFree h FileNode.isDirectory sysfsRoot
  unfold openPhysdevAt
  dsimp only
  rw [hkind]
  split
  · rename_i hdirectory
    refine ⟨hstat,?_⟩
    simp only [Option.map_none,reduceCtorEq,false_iff]
    rintro ⟨components,-,hresolve⟩
    cases sysfsRoot <;> simp [resolve,FileNode.child,FileNode.isDirectory] at hresolve hdirectory
  split
  · rename_i hlength
    refine ⟨hstat,?_⟩
    simp only [Option.map_none,reduceCtorEq,false_iff]
    rintro ⟨components,hpath,-⟩
    have hwalkable := walkable_iff.mpr hpath
    have hshort := hwalkable.short
    have hlong := hwalkable.long
    simp only [physdevLength,ite_eq_left_iff,reduceCtorEq,imp_false,not_not] at hlength
    omega
  rename_i pathLength hlength
  have hsome : physdev.length ≤ l850glPhysdevMax ∧ physdev.length = pathLength := by
    unfold physdevLength at hlength
    split at hlength
    · cases hlength
    · rename_i hbounds
      exact ⟨by omega,Option.some.inj hlength⟩
  obtain ⟨hshort,rfl⟩ := hsome
  split
  · rename_i hrefused
    refine ⟨hstat,?_⟩
    simp only [Option.map_none,reduceCtorEq,false_iff]
    rintro ⟨components,hpath,-⟩
    have hwalkable := walkable_iff.mpr hpath
    rcases hrefused with hlong | hbelow | hlast
    · exact Nat.not_le.mpr hwalkable.long hlong
    · exact hbelow hwalkable.below
    · exact hwalkable.last hlast
  · rename_i hadmitted
    simp only [not_or,not_le,not_not] at hadmitted
    obtain ⟨hlong,hbelow,hlast⟩ := hadmitted
    obtain ⟨hfree,hwalk⟩ := openComponents_node hstat sysfsRoot none _
      (.inr (List.splitOn_ne_nil '/' (physdev.drop "/sys/".length)))
    refine ⟨hfree,?_⟩
    rw [hwalk]
    constructor
    · intro hnode
      split at hnode
      · rename_i hcanonical
        obtain ⟨tail,htail⟩ := hbelow
        have hsplit := htail ▸ splitOn_physdev tail
        rw [hsplit] at hnode hcanonical
        refine ⟨tail.splitOn '/',walkable_iff.mp ?_,hnode⟩
        exact ⟨hshort,hlong,⟨tail,htail⟩,hlast,hsplit,hcanonical⟩
      · cases hnode
    · rintro ⟨components,hpath,hresolve⟩
      have hwalkable := walkable_iff.mpr hpath
      rw [hwalkable.split,if_pos hwalkable.canonical]
      exact hresolve

theorem attestL850MbimAt_owes (h : host.descriptors.Owes live) :
    (attestL850MbimAt host sysfsRoot physdev).1.descriptors.Owes live := by
  have hopened := openPhysdevAt_owes h sysfsRoot physdev
  unfold attestL850MbimAt
  split
  · rename_i later hopen
    rw [hopen] at hopened
    exact hopened
  · rename_i later device hopen
    rw [hopen] at hopened
    have hvendor : (readExactUsbId later device "idVendor".toList "2cb7".toList).1.descriptors.Owes
        (device.fd::live) := readExactUsbId_owes hopened
    dsimp only
    split
    · exact hvendor.release
    · exact (readExactUsbId_owes hvendor).release

theorem attestL850MbimAt_iff (h : FaultFree host) :
    (attestL850MbimAt host sysfsRoot physdev).2 = true ↔
      ∃ components device,CanonicalPath physdev components ∧
        resolve sysfsRoot ("devices".toList::components) = some device ∧
        HoldsId device "idVendor".toList "2cb7".toList ∧
        HoldsId device "idProduct".toList "0007".toList := by
  have hopened := openPhysdevAt_node h sysfsRoot physdev
  unfold attestL850MbimAt
  split
  · rename_i later hopen
    simp only [hopen,Option.map_none,reduceCtorEq,false_iff] at hopened
    simp only [Bool.false_eq_true,false_iff]
    rintro ⟨components,device,hpath,hresolve,-⟩
    exact (hopened device).2 ⟨components,hpath,hresolve⟩
  · rename_i later device hopen
    simp only [hopen,Option.map_some,Option.some.injEq] at hopened
    obtain ⟨components,hpath,hresolve⟩ := (hopened device.node).2.mp rfl
    have hsame : ∀ node,(∃ components,CanonicalPath physdev components ∧
        resolve sysfsRoot ("devices".toList::components) = some node) → device.node = node :=
      fun node => (hopened node).2.mpr
    obtain ⟨hvendorFree,hvendor⟩ := readExactUsbId_iff (hopened device.node).1 device
      "idVendor".toList (show "2cb7".toList.length = l850glUsbIdLen from rfl)
    obtain ⟨-,hproduct⟩ := readExactUsbId_iff hvendorFree device "idProduct".toList
      (show "0007".toList.length = l850glUsbIdLen from rfl)
    dsimp only
    have hspec : (∃ components device',CanonicalPath physdev components ∧
        resolve sysfsRoot ("devices".toList::components) = some device' ∧
        HoldsId device' "idVendor".toList "2cb7".toList ∧
        HoldsId device' "idProduct".toList "0007".toList) ↔
        HoldsId device.node "idVendor".toList "2cb7".toList ∧
        HoldsId device.node "idProduct".toList "0007".toList := by
      constructor
      · rintro ⟨components',node,hpath',hresolve',hids⟩
        rw [hsame node ⟨components',hpath',hresolve'⟩]
        exact hids
      · intro hids
        exact ⟨components,device.node,hpath,hresolve,hids⟩
    rw [hspec,← hvendor,← hproduct]
    split
    · rename_i hrefused
      simp only [Bool.not_eq_true'] at hrefused
      simp only [hrefused,Bool.false_eq_true,false_and]
    · rename_i haccepted
      simp only [Bool.not_eq_true',Bool.not_eq_false] at haccepted
      simp only [haccepted,true_and]

/-- The attestation succeeds exactly for a canonical path of directories that holds both
identifiers, and closes once each descriptor that it opens, whatever fails. -/
theorem attestL850MbimAt_exact (host : Host) (live : List Nat)
    (howes : host.descriptors.Owes live) (sysfsRoot : FileNode) (physdev : CString) :
    let run := attestL850MbimAt host sysfsRoot physdev
    (FaultFree host → (run.2 = true ↔
      ∃ components device,CanonicalPath physdev components ∧
        resolve sysfsRoot ("devices".toList::components) = some device ∧
        HoldsId device "idVendor".toList "2cb7".toList ∧
        HoldsId device "idProduct".toList "0007".toList)) ∧
    run.1.descriptors.Owes live ∧
    ∀ fd,host.descriptors.next ≤ fd → fd < run.1.descriptors.next →
      run.1.descriptors.marksOf fd = [.acquired fd,.released fd] := by
  intro run
  have hafter : run.1.descriptors.Owes live := attestL850MbimAt_owes howes
  refine ⟨fun hfree => attestL850MbimAt_iff hfree,hafter,fun fd hnew hlt => ?_⟩
  refine hafter.released hlt fun hlive => ?_
  exact Nat.not_lt.mpr hnew (howes.known fd hlive)

/-- A device is recognised through interrupted and short reads. -/
theorem attestL850MbimAt_exact_sample :
    let host : Host := ⟨.empty,[],[],[.interrupted,.delivers 1,.interrupted,.delivers 0]⟩
    let device : FileNode := .directory [("idVendor".toList,.regular "2cb7\n".toList),
      ("idProduct".toList,.regular "0007".toList)]
    let sysfsRoot : FileNode :=
      .directory [("devices".toList,.directory [("usb1".toList,device)])]
    (attestL850MbimAt host sysfsRoot "/sys/devices/usb1".toList).2 = true := by
  intro host device sysfsRoot
  have hfree : FaultFree host := ⟨by simp [host],by simp [host],by decide⟩
  refine ((attestL850MbimAt_exact host [] Ledger.owes_empty sysfsRoot _).1 hfree).mpr ?_
  refine ⟨["usb1".toList],device,?_,rfl,⟨_,rfl,.inr rfl⟩,⟨_,rfl,.inl rfl⟩⟩
  exact ⟨by decide,by decide,by decide,by decide⟩

end Hardware
end L850GL
