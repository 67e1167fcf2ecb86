import NexsKernel.Boot.Untypeds

/-!
# Booting on AArch64

What the AArch64 port adds to the boot code: the paging structures that the address space of the initial thread needs
(`64/kernel/vspace.c`), the virtual region of the initial thread (`try_init_kernel`), and the reserved regions that
are passed to `init_freemem` (`arch_init_freemem`, both in `kernel/boot.c` of the port).
-/

namespace NexsKernel

namespace Boot

/-- `ROUND_UP`. -/
def roundUp (n bits : Nat) : Nat :=
  (sub64 n 1 / 2 ^ bits + 1) * 2 ^ bits % 2 ^ 64

/-- `get_n_paging`. -/
def getNPaging (vReg : Region) (bits : Nat) : Nat :=
  sub64 (roundUp vReg.stop bits) (roundDown vReg.start bits) / 2 ^ bits

/-- `GET_ULVL_PGSIZE_BITS` of `ULVL_FRM_ARM_PT_LVL`, for a level of the architecture. -/
def armPgSizeBits (level : Nat) : Nat :=
  pageBits + 9 * (3 - level)

/-- `arch_get_n_paging`, with `AARCH64_VSPACE_S2_START_L1` or without. -/
def archGetNPaging (s2StartL1 : Bool) (itVReg : Region) : Nat :=
  if s2StartL1 then add64 (getNPaging itVReg (armPgSizeBits 1)) (getNPaging itVReg (armPgSizeBits 2))
  else
    add64 (add64 (getNPaging itVReg (armPgSizeBits 0)) (getNPaging itVReg (armPgSizeBits 1)))
      (getNPaging itVReg (armPgSizeBits 2))

/-- `ui_v_reg` of `try_init_kernel`. -/
def uiVReg (pvOffset : Nat) (uiPReg : Region) : Region :=
  ⟨sub64 uiPReg.start pvOffset, sub64 uiPReg.stop pvOffset⟩

/-- `it_v_reg` of `try_init_kernel`: the user image, the IPC buffer, the boot info and what is extra. -/
def itVReg (uiVReg : Region) (extraBiSizeBits : Nat) : Region :=
  let ipcbufVptr := uiVReg.stop
  let biFrameVptr := add64 ipcbufVptr (2 ^ pageBits)
  let extraBiFrameVptr := add64 biFrameVptr (2 ^ bootInfoFrameBits)
  ⟨uiVReg.start, add64 extraBiFrameVptr (if 0 < extraBiSizeBits then 2 ^ extraBiSizeBits else 0)⟩

/-- `arch_init_freemem`, `kernelImg` being `get_p_reg_kernel_img` and `availPRegs` the regions of the board. -/
def archInitFreemem (cfg : BootConfig) (s2StartL1 : Bool) (kernelImg : Region) (availPRegs : List Region)
    (uiPReg dtbPReg itVReg : Region) (extraBiSizeBits : Nat) (s : NdksBoot) : Except Halt (Bool × NdksBoot) :=
  let nPaging := archGetNPaging s2StartL1 itVReg
  let dtb := if dtbPReg.start ≠ 0 then [paddrToPptrReg cfg dtbPReg] else []
  let reserved := paddrToPptrReg cfg kernelImg :: dtb
  if uiPReg.start < cfg.paddrTop then
    initFreemem cfg availPRegs (reserved ++ [paddrToPptrReg cfg uiPReg]) nPaging extraBiSizeBits s
  else do
    -- the user image lies beyond the kernel window, and must not become device memory
    let (_, s) ← reserveRegion cfg uiPReg s
    initFreemem cfg availPRegs reserved nPaging extraBiSizeBits s

end Boot

end NexsKernel
