import L850GL.Lib.Ledger
import L850GL.Text

/-! The attestation of the modem's USB identity (`hardware.c`) over a tree of files.  Each call of
`openat`, `fstat` and `read` takes what its schedule says next, and succeeds or delivers all it
can when the schedule is at its end. -/
namespace L850GL
namespace Hardware

/-- A file of any other kind, such as a device or a socket, may refuse to be opened. -/
inductive FileNode
  | directory (entries : List (CString × FileNode))
  | regular (content : CString)
  | symlink
  | other (opens : Bool)

namespace FileNode

def isDirectory : FileNode → Bool
  | directory _ => true
  | _ => false

def isRegular : FileNode → Bool
  | regular _ => true
  | _ => false

def content : FileNode → CString
  | regular content => content
  | _ => []

def child (dir : FileNode) (name : CString) : Option FileNode :=
  match dir with
  | directory entries => entries.lookup name
  | _ => none

/-- Whether `open` succeeds with `O_NOFOLLOW`, and with `O_DIRECTORY` where that is asked for. -/
def opens (onlyDirectory : Bool) : FileNode → Bool
  | directory _ => true
  | regular _ => !onlyDirectory
  | symlink => false
  | other opens => opens && !onlyDirectory

end FileNode

/-- What the next `read` does: fails with `EINTR`, fails otherwise, or delivers at least one byte
and at most `short+1` of them, unless the file is at its end. -/
inductive ReadEvent
  | interrupted
  | failed
  | delivers (short : Nat)
  deriving DecidableEq,Repr

/-- The descriptors of the process, and whether the next calls fail for reasons of their own. -/
structure Host where
  descriptors : Ledger
  openFails : List Bool
  statFails : List Bool
  reads : List ReadEvent
  deriving DecidableEq,Repr

structure Descriptor where
  fd : Nat
  node : FileNode

namespace Host

def openat (host : Host) (dir : FileNode) (name : CString) (onlyDirectory : Bool) :
    Host × Option Descriptor :=
  let later := {host with openFails := host.openFails.tail}
  if host.openFails.headD false then (later,none)
  else match (dir.child name).filter (·.opens onlyDirectory) with
    | none => (later,none)
    | some node =>
      ({later with descriptors := host.descriptors.acquire},
        some ⟨host.descriptors.next,node⟩)

/-- `fstat` and the test of the file's kind. -/
def fstatIs (host : Host) (kind : FileNode → Bool) (node : FileNode) : Host × Bool :=
  ({host with statFails := host.statFails.tail},!host.statFails.headD false && kind node)

def close (host : Host) (fd : Nat) : Host :=
  {host with descriptors := host.descriptors.release fd}

def closeCurrent (host : Host) (current : Option Descriptor) : Host :=
  match current with
  | none => host
  | some descriptor => host.close descriptor.fd

end Host

def l850glSysfsPrefix : CString := "/sys/devices/".toList
def l850glPhysdevMax : Nat := 4096
def l850glComponentMax : Nat := 255
def l850glUsbIdLen : Nat := 4

def physdevLength (physdev : CString) : Option Nat :=
  if physdev.length = 0 ∨ physdev.length > l850glPhysdevMax then none else some physdev.length

def componentIsCanonical (component : CString) : Bool :=
  if component.length = 0 ∨ component.length > l850glComponentMax then false
  else if component = ".".toList then false
  else if component = "..".toList then false
  else true

/-- The loop of `open_physdev_at` over the components between slashes. -/
def openComponents (host : Host) (sysfsRoot : FileNode) (current : Option Descriptor) :
    List CString → Host × Option Descriptor
  | [] => (host,current)
  | component::components =>
    if !componentIsCanonical component then (host.closeCurrent current,none)
    else
      let dir := match current with
        | none => sysfsRoot
        | some descriptor => descriptor.node
      match host.openat dir component true with
      | (host,none) => (host.closeCurrent current,none)
      | (host,some next) =>
        openComponents (host.closeCurrent current) sysfsRoot (some next) components

def openPhysdevAt (host : Host) (sysfsRoot : FileNode) (physdev : CString) :
    Host × Option Descriptor :=
  let (host,isDirectory) := host.fstatIs FileNode.isDirectory sysfsRoot
  if !isDirectory then (host,none)
  else match physdevLength physdev with
    | none => (host,none)
    | some pathLength =>
      if pathLength ≤ l850glSysfsPrefix.length ∨ ¬ l850glSysfsPrefix <+: physdev ∨
          physdev.getLast? = some '/' then (host,none)
      else openComponents host sysfsRoot none ((physdev.drop "/sys/".length).splitOn '/')

/-- The read loop of `read_exact_usb_id`: the bytes of the buffer so far, and what is left of the
file.  Nothing is read when a read fails. -/
def readLoop (value rest : CString) : List ReadEvent → List ReadEvent × Option CString
  | [] => ([],some (value++rest.take (l850glUsbIdLen+2-value.length)))
  | event::events =>
    if l850glUsbIdLen+2 ≤ value.length then (event::events,some value)
    else match event with
      | .interrupted => readLoop value rest events
      | .failed => (events,none)
      | .delivers short =>
        let count := min (short+1) (l850glUsbIdLen+2-value.length)
        if rest = [] then (events,some value)
        else readLoop (value++rest.take count) (rest.drop count) events

def readExactUsbId (host : Host) (device : Descriptor) (usbAttribute expected : CString) :
    Host × Bool :=
  match host.openat device.node usbAttribute false with
  | (host,none) => (host,false)
  | (host,some descriptor) =>
    let (host,isRegular) := host.fstatIs FileNode.isRegular descriptor.node
    if !isRegular then (host.close descriptor.fd,false)
    else
      let (reads,value) := readLoop [] descriptor.node.content host.reads
      let isMatch := match value with
        | none => false
        | some value =>
          (value.length == l850glUsbIdLen ||
            (value.length == l850glUsbIdLen+1 && value[l850glUsbIdLen]? == some '\n')) &&
            value.take l850glUsbIdLen == expected
      ({host with reads := reads}.close descriptor.fd,isMatch)

def attestL850MbimAt (host : Host) (sysfsRoot : FileNode) (physdev : CString) : Host × Bool :=
  match openPhysdevAt host sysfsRoot physdev with
  | (host,none) => (host,false)
  | (host,some device) =>
    let (host,vendor) := readExactUsbId host device "idVendor".toList "2cb7".toList
    if !vendor then (host.close device.fd,false)
    else
      let (host,product) := readExactUsbId host device "idProduct".toList "0007".toList
      (host.close device.fd,product)

end Hardware
end L850GL
