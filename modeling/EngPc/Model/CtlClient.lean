import EngPc.Model.CtlSocket
import EngPc.Model.StartUp

/-!
# The client of the control socket

`main`, `getDst` and `getAct` of client/main.cpp and the two functions of client/engpcctl.cpp, which
fill an `ENGPC_CMD_T`; the loop `CEngCtl::engCtl` over the connections and
`CChnlThreadMgr::enableChnl`, which the commands come to.
-/

namespace EngPc
open CString

/-- An `ENGPC_DST`; `none` is -1. -/
def getDst (buff : Option (List UInt8)) : Option UInt8 :=
  match buff with
  | none => none
  | some s =>
    if strcaseeq s (ofString "dev") then some 0
    else if strcaseeq s (ofString "chnl") then some 1
    else none

/-- An `ENGPC_ACT`; `none` is -1. -/
def getAct (buff : Option (List UInt8)) : Option UInt8 :=
  match buff with
  | none => none
  | some s =>
    if strcaseeq s (ofString "list") then some 0
    else if strcaseeq s (ofString "add") then some 1
    else if strcaseeq s (ofString "del") then some 2
    else if strcaseeq s (ofString "enable") then some 3
    else if strcaseeq s (ofString "disable") then some 4
    else none

/-- `STRCPY` into a cleared member. -/
def ctlField (size : Nat) (s : Option (List UInt8)) : List UInt8 :=
  let text := (s.getD []).take (size - 1)
  text ++ List.replicate (size - text.length) 0

/-- The sizes of the members of `CTL_DEV_S`. -/
def ctlDevSizes : List Nat := [32, 64, 32, 16, 64, 16]

/-- The sizes of the members of `CTL_CHNL_S`. -/
def ctlChnlSizes : List Nat := [64, 128, 32, 32, 32, 32, 16, 16, 16, 16]

/-- The members, each with its argument. -/
def ctlFields (sizes : List Nat) (args : List (Option (List UInt8))) : List UInt8 :=
  (List.zipWith ctlField sizes args).flatten

/-- `engpc_ctl_dev`, up to the end of the union. -/
def engpcCtlDev (act : UInt8) (args : List (Option (List UInt8))) : List UInt8 :=
  let fields := ctlFields ctlDevSizes args
  [0, act] ++ fields ++ List.replicate (ctlChnlLen - fields.length) 0

def engpcCtlChnl (act : UInt8) (args : List (Option (List UInt8))) : List UInt8 :=
  [1, act] ++ ctlFields ctlChnlSizes args

/-- `main`: the command that is sent, if one is. -/
def clientMain (argv : List (List UInt8)) : Except LoadFault (Option (List UInt8)) :=
  if argv.length < 2 then .ok none
  else if 16 < argv.length then .error .overflow
  else
    let param (i : Nat) : Option (List UInt8) := argv[i]?
    match getDst (param 1), getAct (param 2) with
    | some dst, some act =>
      if dst = 0 then .ok (some (engpcCtlDev act ((List.range 6).map fun i => param (i + 3))))
      else .ok (some (engpcCtlChnl act ((List.range 10).map fun i => param (i + 3))))
    | _, _ => .ok none

/-- `CEngCtl::engCtl`: one connection after the other, each given by its reads. -/
def CEngCtl.engCtl (calls : EnableCalls) (conns : List (List (List UInt8))) : EnableCalls :=
  conns.foldl (fun calls reads => (CEngCtl.engSocketRwThread calls (fun _ => ()) reads).1) calls

/-- `run` of a thread that is not running, or `stop`. -/
inductive ThreadOp
  | run | stop
  deriving DecidableEq, Repr

/-- What happens to which thread. -/
def CChnlThreadMgr.enableChnl {π : Type} (tds : List (ChnlThread π)) (name : List UInt8)
    (enable : Bool) : List (Nat × ThreadOp) :=
  tds.zipIdx.filterMap fun td =>
    if strcaseeq td.1.name name then some (td.2, if enable = true then .run else .stop) else none

end EngPc
