import EngPc.Model.HostMessages

/-!
# Time synchronisation

The thread `timesync` of server/common/cpctl.cpp with `fds_collate`, `try_connect` and
`add_connection`: it is a client of two servers and polls the table `fds` of their sockets. A
descriptor or an index of -1 is `none`; `socket_local_client`, `poll`, `read` and the clocks answer
from outside.
-/

namespace EngPc
open CString LittleEndian

def fdsSize : Nat := 2

/-- `MODEM_SOCKET_NAME` and `TIME_SERVER_SOCK_NAME` -/
inductive SyncServer
  | modemd | refnotify
  deriving DecidableEq, Repr

structure SocketConnection where
  fd : Option Nat
  index : Option Nat
  maxRetry : Nat
  tryNum : Nat
  deriving DecidableEq, Repr

def SocketConnection.init : SocketConnection := ⟨none, none, 0, 0⟩

/-- `fds`, `modemd_conn`, `refnotify_conn` and `total_conn`. -/
structure ConnTable where
  fds : Buffer (Option Nat)
  modemd : SocketConnection
  refnotify : SocketConnection
  totalConn : Nat

def ConnTable.init : ConnTable := ⟨fun _ => none, .init, .init, 0⟩

def ConnTable.conn (t : ConnTable) : SyncServer → SocketConnection
  | .modemd => t.modemd
  | .refnotify => t.refnotify

def ConnTable.setConn (t : ConnTable) (c : SocketConnection) : SyncServer → ConnTable
  | .modemd => { t with modemd := c }
  | .refnotify => { t with refnotify := c }

/-- The first free one of `n` entries from `i` on, or `i + n`. -/
def firstFree (fds : Buffer (Option Nat)) : Nat → Nat → Nat
  | i, 0 => i
  | i, n + 1 => if fds i = none then i else firstFree fds (i + 1) n

/-- An entry is moved to `i`; the one it came from stays as it is. -/
def ConnTable.moveTo (t : ConnTable) (i fd : Nat) : ConnTable :=
  let t := { t with fds := t.fds.store i (some fd) }
  if t.modemd.fd = some fd then { t with modemd := { t.modemd with index := some i } }
  else if t.refnotify.fd = some fd then
    { t with refnotify := { t.refnotify with index := some i } }
  else t

/-- The second loop of `fds_collate`, over `n` entries from `j` on. -/
def collateLoop : Nat → Nat → Nat → ConnTable → ConnTable
  | 0, _, _, t => t
  | n + 1, i, j, t =>
    let t := match t.fds j with
      | some fd => t.moveTo i fd
      | none => t
    collateLoop n (i + 1) (j + 1) t

def fdsCollate (len : Nat) (t : ConnTable) : ConnTable :=
  let i := firstFree t.fds 0 len
  if len ≤ i + 1 then t else collateLoop (len - (i + 1)) i (i + 1) t

/-- `add_connection`: the table and the index in it. -/
def addConnection (len : Nat) (t : ConnTable) (fd : Nat) : ConnTable × Option Nat :=
  let i := firstFree t.fds 0 len
  if i < len then
    ({ t with fds := t.fds.store i (some fd), totalConn := t.totalConn + 1 }, some i)
  else (t, none)

/-- `try_connect`, where `socket_local_client` returns `client`. -/
def tryConnect (len : Nat) (s : SyncServer) (t : ConnTable) (client : Option Nat) : ConnTable :=
  let sock := t.conn s
  if sock.maxRetry ≠ 0 ∧ sock.maxRetry < sock.tryNum then t
  else
    match client with
    | none => t.setConn { sock with fd := none, tryNum := sock.tryNum + 1 } s
    | some fd =>
      let r := addConnection len t fd
      r.1.setConn { sock with fd := some fd, index := r.2, tryNum := 0 } s

/-- A socket that has none is connected again. -/
def ConnTable.reconnect (t : ConnTable) (s : SyncServer) (client : Option Nat) : ConnTable :=
  if (t.conn s).fd = none then tryConnect fdsSize s t client else t

/-- The branch that reads entry `i`. -/
def ConnTable.branch (t : ConnTable) (i : Nat) : Option SyncServer :=
  if t.modemd.index = some i then some .modemd
  else if t.refnotify.index = some i then some .refnotify
  else none

/-- The socket in entry `i`, read by the branch of `s`, has been closed by its server. -/
def ConnTable.disconnect (t : ConnTable) (s : SyncServer) (i : Nat) : ConnTable :=
  let t := t.setConn { t.conn s with fd := none } s
  { t with fds := t.fds.store i none, totalConn := t.totalConn - 1 }

inductive CpEvent
  | alive | assert | reset | blocked | none
  deriving DecidableEq, Repr

def parseCpEventNotify (buf : List UInt8) : CpEvent :=
  if (strstr (ofString "P-ARM Modem Assert") buf).isSome then .assert
  else if (strstr (ofString "TD Modem Assert") buf).isSome then .assert
  else if (strstr (ofString "Modem Assert") buf).isSome then .assert
  else if (strstr (ofString "Modem Reset") buf).isSome then .reset
  else if (strstr (ofString "Modem Alive") buf).isSome then .alive
  else if (strstr (ofString "Modem Blocked") buf).isSome then .blocked
  else .none

structure TimeSync where
  sysCnt : UInt32
  uptime : UInt32
  deriving DecidableEq, Repr

def TimeSync.ofBytes (l : List UInt8) : TimeSync :=
  ⟨UInt32.ofNat (natLE (l.take 4)), UInt32.ofNat (natLE (l.drop 4))⟩

/-- `gettimeofday`, `sysinfo` and `get_timezone`, as far as they fit the fields. -/
structure ApClock where
  tvSec : UInt32
  tvUsec : UInt32
  uptime : UInt32
  timezone : UInt32
  deriving DecidableEq, Repr

def currentApTimeStampHandle (timeSync : TimeSync) (now : ApClock) : ModemTimestamp where
  tvSec := now.tvSec + now.timezone
  tvUsec := now.tvUsec
  sysCnt := timeSync.sysCnt + (now.uptime - timeSync.uptime) * 1000

structure TimesyncState where
  table : ConnTable
  fdsCollateFlag : Bool
  modemResetFlag : Bool
  timeSync : TimeSync

def TimesyncState.init : TimesyncState := ⟨.init, false, false, ⟨0, 0⟩⟩

inductive ReadResult
  | error | closed
  | data (bytes : List UInt8)
  deriving DecidableEq, Repr

/-- What comes from outside in one round of the loop: the results of the two attempts to connect,
the entries that `poll` reports with what `read` gives there, and the clocks. -/
structure TimesyncRound where
  client : SyncServer → Option Nat
  reads : Nat → Option ReadResult
  now : ApClock

/-- An entry was read: by which branch, from which descriptor. `host` is what was sent to the
host. -/
structure EntryRead where
  server : SyncServer
  fd : Option Nat
  host : List (List UInt8)
  deriving DecidableEq, Repr

/-- The branch of modemd; `notify_buf` is a text. -/
def readModemd (s : TimesyncState) (i : Nat) (r : ReadResult) :
    TimesyncState × List (List UInt8) :=
  match r with
  | .error => (s, [])
  | .closed => ({ s with table := s.table.disconnect .modemd i, fdsCollateFlag := true }, [])
  | .data bytes =>
    if parseCpEventNotify ((bytes.take 255).takeWhile (· ≠ 0)) = .reset then
      ({ s with modemResetFlag := true }, [cpEventNotifyRspHandle ⟨1, 2⟩])
    else (s, [])

/-- The branch of the time server; a message of another size is dropped. -/
def readRefnotify (now : ApClock) (s : TimesyncState) (i : Nat) (r : ReadResult) :
    TimesyncState × List (List UInt8) :=
  match r with
  | .error => (s, [])
  | .closed => ({ s with table := s.table.disconnect .refnotify i, fdsCollateFlag := true }, [])
  | .data bytes =>
    if bytes.length ≠ 8 then (s, [])
    else
      let timeSync := TimeSync.ofBytes bytes
      if s.modemResetFlag = true then
        ({ s with timeSync := timeSync, modemResetFlag := false },
          [timeSyncRspHandle (currentApTimeStampHandle timeSync now)])
      else ({ s with timeSync := timeSync }, [])

def readEntry (now : ApClock) (s : TimesyncState) (i : Nat) (server : SyncServer) (r : ReadResult) :
    TimesyncState × EntryRead :=
  let res := match server with
    | .modemd => readModemd s i r
    | .refnotify => readRefnotify now s i r
  (res.1, ⟨server, s.table.fds i, res.2⟩)

/-- The loop over the entries, from `i` on; `poll` does not report a descriptor of -1. -/
def readLoop (e : TimesyncRound) : Nat → Nat → TimesyncState → TimesyncState × List EntryRead
  | 0, _, s => (s, [])
  | n + 1, i, s =>
    if s.table.totalConn ≤ i then (s, [])
    else
      match s.table.fds i, e.reads i, s.table.branch i with
      | some _, some r, some server =>
        let step := readEntry e.now s i server r
        let rest := readLoop e n (i + 1) step.1
        (rest.1, step.2 :: rest.2)
      | _, _, _ => readLoop e n (i + 1) s

/-- A round up to `poll`. -/
def timesyncConnect (s : TimesyncState) (e : TimesyncRound) : TimesyncState :=
  let t := if s.fdsCollateFlag = true then fdsCollate fdsSize s.table else s.table
  let t := t.reconnect .modemd (e.client .modemd)
  { s with table := t.reconnect .refnotify (e.client .refnotify), fdsCollateFlag := false }

/-- The table at the call of `poll`, if it comes to that, and what was read. -/
structure TimesyncOut where
  atPoll : Option ConnTable
  reads : List EntryRead

def timesyncStep (s : TimesyncState) (e : TimesyncRound) :
    Except Empty (TimesyncState × TimesyncOut) :=
  let s := timesyncConnect s e
  if s.table.totalConn = 0 then .ok (s, ⟨none, []⟩)
  else
    let r := readLoop e s.table.totalConn 0 s
    .ok (r.1, ⟨some s.table, r.2⟩)

end EngPc
