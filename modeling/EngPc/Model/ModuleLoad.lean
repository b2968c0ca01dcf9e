import EngPc.Model.ModuleMgr

/-!
# Loading the modules

`CModuleMgr::eng_modules_load` and `get_eng_modules` of server/module. A library is what its two
register functions do; no allocation fails. The array and the count of `register_this_module_ext`
are set up once, before the loop over the directory.
-/

namespace EngPc

variable {φ : Type}

/-- A callback as it is given to a register function. -/
def EngCallback.unset : EngCallback φ where
  diagApCmd := 0xffffffff
  type := 0xff
  subtype := 0xff
  atCmd := []
  alsoNeedToCp := false
  engDiagFunc := none
  engLinuxcmdFunc := none
  engSetWriteinterfaceFunc := none
  engCmdMatch := none

/-- The number of elements of `register_arr`. -/
def registerSlots : Nat := 64

/-- What `register_this_module_ext` does: it fills the first slots, each in its own way, and sets the
count; or it returns before. -/
inductive RegisterExt (φ : Type)
  | fills (slots : List (EngCallback φ → EngCallback φ)) (fits : slots.length ≤ registerSlots)
  | early

/-- A library with the register functions that it has. -/
structure ModuleLib (φ : Type) where
  registerThisModule : Option (EngCallback φ → EngCallback φ)
  registerThisModuleExt : Option (RegisterExt φ)

/-- An entry of the directory: neither a file nor a link; a link that cannot be read; a file without
the right to read it; one that `dlopen` does not take; a library. -/
inductive DirEntry (φ : Type)
  | other
  | brokenLink
  | unreadable
  | notLoaded
  | library (lib : ModuleLib φ)

/-- The variables of `eng_modules_load` that outlive a round, and `m_listHead`. -/
structure LoadState (φ : Type) where
  list : List (EngCallback φ)
  registerArr : List (EngCallback φ)
  registerNum : Nat

def getEngModules (p : EngCallback φ) : EngCallback φ where
  type := p.type
  subtype := p.subtype
  diagApCmd := p.diagApCmd
  alsoNeedToCp := p.alsoNeedToCp
  atCmd := p.atCmd
  engDiagFunc := p.engDiagFunc
  engLinuxcmdFunc := p.engLinuxcmdFunc
  engSetWriteinterfaceFunc := p.engSetWriteinterfaceFunc
  engCmdMatch := p.engCmdMatch

/-- The call of `register_this_module_ext` on array and count. -/
def RegisterExt.call (ext : RegisterExt φ) (arr : List (EngCallback φ)) (num : Nat) :
    List (EngCallback φ) × Nat :=
  match ext with
  | .fills slots _ => (List.zipWith (fun f p => f p) slots arr ++ arr.drop slots.length, slots.length)
  | .early => (arr, num)

def LoadState.register (s : LoadState φ) (f : EngCallback φ → EngCallback φ) : LoadState φ :=
  { s with list := s.list ++ [getEngModules (f .unset)] }

def LoadState.registerExt (s : LoadState φ) (ext : RegisterExt φ) : LoadState φ :=
  let r := ext.call (List.replicate registerSlots .unset) s.registerNum
  { list := s.list ++ (r.1.take r.2).map getEngModules, registerArr := r.1, registerNum := r.2 }

/-- A round of the loop. -/
def LoadState.entry (s : LoadState φ) : DirEntry φ → LoadState φ
  | .other | .brokenLink | .unreadable | .notLoaded => s
  | .library lib =>
    let s :=
      match lib.registerThisModule with
      | none => s
      | some f => s.register f
    match lib.registerThisModuleExt with
    | none => s
    | some ext => s.registerExt ext

/-- `eng_modules_load`: the list after it. `stack` is what lies in the array before, and there is no
directory if `opendir` fails. -/
def engModulesLoad (list stack : List (EngCallback φ)) (dir : Option (List (DirEntry φ))) :
    List (EngCallback φ) :=
  match dir with
  | none => list
  | some entries => (entries.foldl LoadState.entry ⟨list, stack, 0⟩).list

end EngPc
