import Tenbox.Bytes

/-!
`DisplayPanel::UpdateFrame` of the Win32 manager. The panel takes its size from the
frame's resource size, resizing `framebuffer_` when it changes, and copies the dirty
rectangle in row by row. The offsets and both guards are `uint32_t` expressions, so the
model computes them in `BitVec 32` and widens them where the code hands them to `memcpy`.
A `memcpy` that leaves either buffer is undefined behaviour, which the model writes as
`none`. The repaint request to `hwnd_` is left out.

The guards hold only modulo `2 ^ 32` (`blitRows_guarded`), and they bound the copies by the
whole buffer, not by the row. `updateFrame_blits` says what the loop does when neither
matters: the framebuffer's size is kept over every run (`updateFrames_sized`), and each
byte copied is the frame's byte for the same pixel of the rectangle.
`updateFrame_fails_only_by_wrapping` says that the guards fail only through the first:
a `memcpy` leaves a buffer only when a copy's exact end reaches `2 ^ 32`.
-/

namespace Tenbox.Ui

/-- Modelled from the spec: `DisplayFrame` is declared in a header the source tree lacks.
These are the members `UpdateFrame` reads, each copied into a `uint32_t` there, and the
pixel bytes. -/
structure DisplayFrame where
  width : BitVec 32
  height : BitVec 32
  resourceWidth : BitVec 32
  resourceHeight : BitVec 32
  dirtyX : BitVec 32
  dirtyY : BitVec 32
  pixels : Bytes
  deriving DecidableEq

structure DisplayPanel where
  fbWidth : BitVec 32
  fbHeight : BitVec 32
  framebuffer : Bytes
  deriving DecidableEq

-- `std::vector<uint8_t>::resize(size, 0)`.
def resize (bytes : Bytes) (size : Nat) : Bytes :=
  bytes.take size ++ List.replicate (size - bytes.length) 0

-- `std::memcpy(framebuffer_.data() + dst, frame.pixels.data() + src, len)`.
structure Copy where
  dst : Nat
  src : Nat
  len : Nat
  deriving DecidableEq

def memcpy (pixels framebuffer : Bytes) (copy : Copy) : Option Bytes :=
  if copy.dst + copy.len ≤ framebuffer.length ∧ copy.src + copy.len ≤ pixels.length then
    some (framebuffer.take copy.dst ++ (pixels.drop copy.src).take copy.len ++
      framebuffer.drop (copy.dst + copy.len))
  else none

-- The `for (uint32_t row = 0; row < dh; ++row)` loop: the copies it makes, up to the
-- first row that one of its two guards stops.
def blitRows (frame : DisplayFrame) (dstStride : BitVec 32) (framebufferSize : Nat) :
    List (BitVec 32) → List Copy
  | [] => []
  | row :: rows =>
      let srcStride := frame.width * 4
      let srcOff := row * srcStride
      let dstOff := (frame.dirtyY + row) * dstStride + frame.dirtyX * 4
      if frame.pixels.length < (srcOff + srcStride).toNat then []
      else if framebufferSize < (dstOff + frame.width * 4).toNat then []
      else ⟨dstOff.toNat, srcOff.toNat, (frame.width * 4).toNat⟩ :: blitRows frame dstStride framebufferSize rows

def resizeFor (panel : DisplayPanel) (frame : DisplayFrame) : DisplayPanel :=
  let rw := if frame.resourceWidth = 0 then frame.width else frame.resourceWidth
  let rh := if frame.resourceHeight = 0 then frame.height else frame.resourceHeight
  if panel.fbWidth ≠ rw ∨ panel.fbHeight ≠ rh then
    ⟨rw, rh, resize panel.framebuffer (rw.toNat * rh.toNat * 4 % 2 ^ 64)⟩
  else panel

def frameCopies (panel : DisplayPanel) (frame : DisplayFrame) : List Copy :=
  blitRows frame (panel.fbWidth * 4) panel.framebuffer.length
    ((List.range frame.height.toNat).map (BitVec.ofNat 32))

def updateFrame (panel : DisplayPanel) (frame : DisplayFrame) : Option DisplayPanel :=
  let resized := resizeFor panel frame
  ((frameCopies resized frame).foldlM (memcpy frame.pixels) resized.framebuffer).map
    fun framebuffer => { resized with framebuffer := framebuffer }

-- `framebuffer_` holds `fb_width_ * fb_height_` pixels of four bytes, as the resize in
-- `UpdateFrame` makes it.
def DisplayPanel.Sized (panel : DisplayPanel) : Prop :=
  panel.framebuffer.length = panel.fbWidth.toNat * panel.fbHeight.toNat * 4 % 2 ^ 64

def updateFrames (panel : DisplayPanel) (frames : List DisplayFrame) : Option DisplayPanel :=
  frames.foldlM updateFrame panel

theorem length_resize (bytes : Bytes) (size : Nat) : (resize bytes size).length = size := by
  simp only [resize, List.length_append, List.length_take, List.length_replicate]
  omega

-- A `memcpy` inside both buffers writes the copied range and keeps every other byte.
theorem memcpy_spec {pixels framebuffer written : Bytes} {copy : Copy}
    (copied : memcpy pixels framebuffer copy = some written) :
    copy.dst + copy.len ≤ framebuffer.length ∧ copy.src + copy.len ≤ pixels.length ∧
      written.length = framebuffer.length ∧
      ∀ k, written[k]? =
        if copy.dst ≤ k ∧ k < copy.dst + copy.len then pixels[copy.src + (k - copy.dst)]? else framebuffer[k]? := by
  unfold memcpy at copied
  split at copied
  · next inside =>
    cases copied
    have front : (framebuffer.take copy.dst).length = copy.dst := by simp only [List.length_take]; omega
    have middle : ((pixels.drop copy.src).take copy.len).length = copy.len := by
      simp only [List.length_take, List.length_drop]; omega
    refine ⟨inside.1, inside.2, by simp only [List.length_append, front, middle, List.length_drop]; omega, fun k => ?_⟩
    by_cases before : k < copy.dst
    · rw [if_neg (by omega), List.append_assoc, List.getElem?_append_left (by omega),
        List.getElem?_take_of_lt before]
    by_cases within : k < copy.dst + copy.len
    · rw [if_pos ⟨by omega, within⟩, List.getElem?_append_left (by simp only [List.length_append]; omega),
        List.getElem?_append_right (by omega), front, List.getElem?_take_of_lt (by omega), List.getElem?_drop]
    · rw [if_neg (by omega), List.getElem?_append_right (by simp only [List.length_append]; omega),
        List.getElem?_drop, List.length_append, front, middle]
      congr 1
      omega
  · cases copied

theorem length_foldlM_memcpy {pixels : Bytes} (copies : List Copy) {framebuffer written : Bytes}
    (copied : copies.foldlM (memcpy pixels) framebuffer = some written) : written.length = framebuffer.length := by
  induction copies generalizing framebuffer with
  | nil => cases copied; rfl
  | cons copy rest ih =>
      obtain ⟨middle, first, more⟩ := Option.bind_eq_some.mp copied
      rw [ih more, (memcpy_spec first).2.2.1]

theorem resizeFor_sized {panel : DisplayPanel} (sized : panel.Sized) (frame : DisplayFrame) :
    (resizeFor panel frame).Sized := by
  unfold resizeFor
  dsimp only
  generalize (if frame.resourceWidth = 0 then frame.width else frame.resourceWidth) = rw
  generalize (if frame.resourceHeight = 0 then frame.height else frame.resourceHeight) = rh
  split
  · exact length_resize _ _
  · exact sized

theorem updateFrame_sized {panel next : DisplayPanel} {frame : DisplayFrame} (sized : panel.Sized)
    (updated : updateFrame panel frame = some next) : next.Sized := by
  obtain ⟨framebuffer, copied, rfl⟩ := Option.map_eq_some'.mp updated
  have := resizeFor_sized sized frame
  rwa [DisplayPanel.Sized, length_foldlM_memcpy _ copied]

-- Over a run of frames the framebuffer keeps the size of the panel.
theorem updateFrames_sized {panel next : DisplayPanel} {frames : List DisplayFrame} (sized : panel.Sized)
    (updated : updateFrames panel frames = some next) : next.Sized := by
  induction frames generalizing panel with
  | nil => cases updated; exact sized
  | cons frame rest ih =>
      obtain ⟨middle, first, more⟩ := Option.bind_eq_some.mp updated
      exact ih (updateFrame_sized sized first) more

theorem memcpy_isSome {pixels framebuffer : Bytes} {copy : Copy} (inside : copy.dst + copy.len ≤ framebuffer.length)
    (source : copy.src + copy.len ≤ pixels.length) : (memcpy pixels framebuffer copy).isSome := by
  rw [memcpy, if_pos ⟨inside, source⟩]
  rfl

-- Copies inside both buffers all go through, and each byte afterwards is the old one or
-- was copied by one of them.
theorem foldlM_memcpy_spec (pixels : Bytes) (copies : List Copy) (framebuffer : Bytes)
    (inside : ∀ copy ∈ copies, copy.dst + copy.len ≤ framebuffer.length ∧ copy.src + copy.len ≤ pixels.length) :
    ∃ written, copies.foldlM (memcpy pixels) framebuffer = some written ∧
      ∀ k, written[k]? = framebuffer[k]? ∨
        ∃ copy ∈ copies, copy.dst ≤ k ∧ k < copy.dst + copy.len ∧ written[k]? = pixels[copy.src + (k - copy.dst)]? := by
  induction copies generalizing framebuffer with
  | nil => exact ⟨framebuffer, rfl, fun _ => .inl rfl⟩
  | cons copy rest ih =>
      have first := inside copy (List.mem_cons_self _ _)
      obtain ⟨middle, copied⟩ := Option.isSome_iff_exists.mp (memcpy_isSome first.1 first.2)
      obtain ⟨-, -, sameLength, bytes⟩ := memcpy_spec copied
      obtain ⟨written, more, later⟩ := ih middle fun other member => by
        rw [sameLength]
        exact inside other (List.mem_cons_of_mem _ member)
      refine ⟨written, by rw [List.foldlM_cons, copied]; exact more, fun k => ?_⟩
      rcases later k with kept | ⟨other, member, copiedLater⟩
      · rw [kept, bytes k]
        split_ifs with within
        · exact .inr ⟨copy, List.mem_cons_self _ _, within.1, within.2, rfl⟩
        · exact .inl rfl
      · exact .inr ⟨other, List.mem_cons_of_mem _ member, copiedLater⟩

-- Each copy the loop makes passes both guards, but only as `uint32_t` sums.
theorem blitRows_guarded (frame : DisplayFrame) (dstStride : BitVec 32) (framebufferSize : Nat)
    (rows : List (BitVec 32)) :
    ∀ copy ∈ blitRows frame dstStride framebufferSize rows, copy.len = (frame.width * 4).toNat ∧
      (copy.src + copy.len) % 2 ^ 32 ≤ frame.pixels.length ∧ (copy.dst + copy.len) % 2 ^ 32 ≤ framebufferSize := by
  induction rows with
  | nil => simp [blitRows]
  | cons row rows ih =>
      intro copy mem
      simp only [blitRows] at mem
      split_ifs at mem with pixelsShort framebufferShort
      · cases mem
      · cases mem
      · rcases List.mem_cons.mp mem with rfl | mem
        · refine ⟨rfl, ?_, ?_⟩ <;> simp only [BitVec.toNat_add] at pixelsShort framebufferShort ⊢ <;> omega
        · exact ih copy mem

/-! Where nothing wraps and the rectangle stays inside the framebuffer's width, the loop
copies row `row` of the rectangle to the framebuffer bytes of the same pixels. -/

-- The copy the loop means to make for one row, in exact arithmetic.
def rowCopy (frame : DisplayFrame) (fbWidth row : Nat) : Copy :=
  ⟨((frame.dirtyY.toNat + row) * fbWidth + frame.dirtyX.toNat) * 4, row * frame.width.toNat * 4,
    frame.width.toNat * 4⟩

-- Byte `k` of a framebuffer `fbWidth` pixels wide belongs to pixel `(k / 4 % fbWidth, k / 4 / fbWidth)`:
-- that pixel lies in the dirty rectangle and inside the framebuffer, and the byte is the
-- one the frame's pixels hold for it.
def FromDirtyRect (frame : DisplayFrame) (fbWidth fbHeight k : Nat) (value : Option (BitVec 8)) : Prop :=
  let x := k / 4 % fbWidth
  let y := k / 4 / fbWidth
  frame.dirtyX.toNat ≤ x ∧ x < frame.dirtyX.toNat + frame.width.toNat ∧ x < fbWidth ∧
    frame.dirtyY.toNat ≤ y ∧ y < frame.dirtyY.toNat + frame.height.toNat ∧ y < fbHeight ∧
    value = frame.pixels[((y - frame.dirtyY.toNat) * frame.width.toNat + (x - frame.dirtyX.toNat)) * 4 + k % 4]?

-- The rectangle does not stick out past the right edge, and no offset of the loop leaves
-- `uint32_t`.
structure NoWrap (frame : DisplayFrame) (fbWidth : Nat) : Prop where
  noSpill : frame.dirtyX.toNat + frame.width.toNat ≤ fbWidth
  dstFits : (frame.dirtyY.toNat + frame.height.toNat) * fbWidth * 4 < 2 ^ 32
  srcFits : frame.height.toNat * frame.width.toNat * 4 < 2 ^ 32

section Blit
variable {frame : DisplayFrame} {fbWidth : BitVec 32}

theorem toNat_offsets (fits : NoWrap frame fbWidth.toNat) {row : Nat} (below : row < frame.height.toNat) :
    (frame.width * 4).toNat = (rowCopy frame fbWidth.toNat row).len ∧
      (BitVec.ofNat 32 row * (frame.width * 4)).toNat = (rowCopy frame fbWidth.toNat row).src ∧
      (BitVec.ofNat 32 row * (frame.width * 4) + frame.width * 4).toNat =
        (rowCopy frame fbWidth.toNat row).src + (rowCopy frame fbWidth.toNat row).len ∧
      ((frame.dirtyY + BitVec.ofNat 32 row) * (fbWidth * 4) + frame.dirtyX * 4).toNat =
        (rowCopy frame fbWidth.toNat row).dst ∧
      ((frame.dirtyY + BitVec.ofNat 32 row) * (fbWidth * 4) + frame.dirtyX * 4 + frame.width * 4).toNat =
        (rowCopy frame fbWidth.toNat row).dst + (rowCopy frame fbWidth.toNat row).len := by
  obtain ⟨noSpill, dstFits, srcFits⟩ := fits
  have srcRows : row * (frame.width.toNat * 4) + frame.width.toNat * 4 ≤
      frame.height.toNat * (frame.width.toNat * 4) := by
    rw [← Nat.succ_mul]
    exact Nat.mul_le_mul_right _ below
  have dstRows : (frame.dirtyY.toNat + row) * (fbWidth.toNat * 4) + fbWidth.toNat * 4 ≤
      (frame.dirtyY.toNat + frame.height.toNat) * (fbWidth.toNat * 4) := by
    rw [← Nat.succ_mul]
    exact Nat.mul_le_mul_right _ (by omega)
  rw [Nat.mul_assoc] at srcFits dstFits
  have rowProduct : (frame.dirtyY.toNat + row) % 2 ^ 32 * (fbWidth.toNat * 4) =
      (frame.dirtyY.toNat + row) * (fbWidth.toNat * 4) := by
    rcases Nat.eq_zero_or_pos fbWidth.toNat with empty | _
    · simp [empty]
    · have := Nat.le_mul_of_pos_right (frame.dirtyY.toNat + row) (by omega : 0 < fbWidth.toNat * 4)
      rw [Nat.mod_eq_of_lt (by omega)]
  have four : (4 : BitVec 32).toNat = 4 := rfl
  have srcAssoc := Nat.mul_assoc row frame.width.toNat 4
  have dstAssoc := Nat.mul_assoc (frame.dirtyY.toNat + row) fbWidth.toNat 4
  simp only [rowCopy, BitVec.toNat_add, BitVec.toNat_mul, BitVec.toNat_ofNat, four]
  rw [Nat.mod_eq_of_lt (by omega : row < 2 ^ 32), Nat.mod_eq_of_lt (by omega : frame.width.toNat * 4 < 2 ^ 32),
    Nat.mod_eq_of_lt (by omega : fbWidth.toNat * 4 < 2 ^ 32), rowProduct]
  omega

-- Each copy of the loop is the intended copy of one of its rows, inside both buffers.
theorem blitRows_rowCopy (fits : NoWrap frame fbWidth.toNat) (size : Nat) (rows : List Nat)
    (below : ∀ row ∈ rows, row < frame.height.toNat) :
    ∀ copy ∈ blitRows frame (fbWidth * 4) size (rows.map (BitVec.ofNat 32)),
      ∃ row ∈ rows, copy = rowCopy frame fbWidth.toNat row ∧ copy.dst + copy.len ≤ size ∧
        copy.src + copy.len ≤ frame.pixels.length := by
  induction rows with
  | nil => simp [blitRows]
  | cons row rows ih =>
      obtain ⟨len, src, srcEnd, dst, dstEnd⟩ := toNat_offsets fits (below row (List.mem_cons_self _ _))
      intro copy mem
      simp only [List.map_cons, blitRows] at mem
      split_ifs at mem with pixelsShort framebufferShort
      · cases mem
      · cases mem
      · rcases List.mem_cons.mp mem with rfl | mem
        · refine ⟨row, List.mem_cons_self _ _, ?_, ?_, ?_⟩
          · rw [dst, src, len]
          · dsimp only
            rw [dst, len]
            omega
          · dsimp only
            rw [src, len]
            omega
        · obtain ⟨other, member, rest⟩ := ih (fun other member => below other (List.mem_cons_of_mem _ member)) copy mem
          exact ⟨other, List.mem_cons_of_mem _ member, rest⟩

-- A byte that the copy of row `row` writes belongs to a pixel of that row of the rectangle.
theorem fromDirtyRect_rowCopy (fits : NoWrap frame fbWidth.toNat) {row k : Nat} (below : row < frame.height.toNat)
    {fbHeight : Nat} (inBuffer : k < fbWidth.toNat * fbHeight * 4) (start : (rowCopy frame fbWidth.toNat row).dst ≤ k)
    (stop : k < (rowCopy frame fbWidth.toNat row).dst + (rowCopy frame fbWidth.toNat row).len) :
    FromDirtyRect frame fbWidth.toNat fbHeight k
      frame.pixels[(rowCopy frame fbWidth.toNat row).src + (k - (rowCopy frame fbWidth.toNat row).dst)]? := by
  have noSpill := fits.noSpill
  simp only [rowCopy] at start stop ⊢
  obtain ⟨j, within, rfl⟩ : ∃ j, j < frame.width.toNat * 4 ∧
      k = ((frame.dirtyY.toNat + row) * fbWidth.toNat + frame.dirtyX.toNat) * 4 + j :=
    ⟨k - ((frame.dirtyY.toNat + row) * fbWidth.toNat + frame.dirtyX.toNat) * 4, by omega, by omega⟩
  have quarter : (((frame.dirtyY.toNat + row) * fbWidth.toNat + frame.dirtyX.toNat) * 4 + j) / 4 =
      (frame.dirtyX.toNat + j / 4) + (frame.dirtyY.toNat + row) * fbWidth.toNat := by omega
  have column : frame.dirtyX.toNat + j / 4 < fbWidth.toNat := by omega
  have x : (((frame.dirtyY.toNat + row) * fbWidth.toNat + frame.dirtyX.toNat) * 4 + j) / 4 % fbWidth.toNat =
      frame.dirtyX.toNat + j / 4 := by
    rw [quarter, Nat.add_mul_mod_self_right, Nat.mod_eq_of_lt column]
  have y : (((frame.dirtyY.toNat + row) * fbWidth.toNat + frame.dirtyX.toNat) * 4 + j) / 4 / fbWidth.toNat =
      frame.dirtyY.toNat + row := by
    rw [quarter, Nat.add_mul_div_right _ _ (by omega), Nat.div_eq_of_lt column, Nat.zero_add]
  have height : frame.dirtyY.toNat + row < fbHeight := by
    have : (frame.dirtyY.toNat + row) * fbWidth.toNat < fbHeight * fbWidth.toNat := by
      rw [Nat.mul_comm fbHeight]
      omega
    exact Nat.lt_of_mul_lt_mul_right this
  unfold FromDirtyRect
  rw [x, y]
  dsimp only
  rw [Nat.add_sub_cancel_left, Nat.add_sub_cancel_left]
  refine ⟨by omega, by omega, column, by omega, by omega, height, ?_⟩
  congr 1
  omega

/-- From a panel whose framebuffer holds `fb_width_ * fb_height_` pixels, after any run of
frames, a frame where nothing wraps and the dirty rectangle stays inside the framebuffer's
width goes through `UpdateFrame`, the framebuffer keeps the panel's size, and every byte
afterwards is the one the resize left or the frame's byte for the same pixel of the
rectangle. -/
theorem updateFrame_blits {start panel : DisplayPanel} {earlier : List DisplayFrame} (fresh : start.Sized)
    (shown : updateFrames start earlier = some panel) (frame : DisplayFrame)
    (fits : NoWrap frame (resizeFor panel frame).fbWidth.toNat) :
    ∃ next, updateFrame panel frame = some next ∧ next.Sized ∧ next.fbWidth = (resizeFor panel frame).fbWidth ∧
      next.fbHeight = (resizeFor panel frame).fbHeight ∧
      ∀ k, next.framebuffer[k]? = (resizeFor panel frame).framebuffer[k]? ∨
        FromDirtyRect frame next.fbWidth.toNat next.fbHeight.toNat k next.framebuffer[k]? := by
  have sized : panel.Sized := updateFrames_sized fresh shown
  have resized : (resizeFor panel frame).Sized := resizeFor_sized sized frame
  have rows := blitRows_rowCopy fits (resizeFor panel frame).framebuffer.length (List.range frame.height.toNat)
    fun _ member => List.mem_range.mp member
  obtain ⟨written, copied, bytes⟩ := foldlM_memcpy_spec frame.pixels (frameCopies (resizeFor panel frame) frame)
    (resizeFor panel frame).framebuffer fun copy member => by
      obtain ⟨-, -, -, inside, source⟩ := rows copy member
      exact ⟨inside, source⟩
  have updated : updateFrame panel frame = some { resizeFor panel frame with framebuffer := written } := by
    rw [updateFrame, copied]
    rfl
  refine ⟨_, updated, updateFrame_sized sized updated, rfl, rfl, fun k => ?_⟩
  rcases bytes k with kept | ⟨copy, member, start, stop, value⟩
  · exact .inl kept
  · obtain ⟨row, rowMember, rfl, inside, -⟩ := rows copy member
    have inBuffer : k < (resizeFor panel frame).fbWidth.toNat * (resizeFor panel frame).fbHeight.toNat * 4 := by
      have := Nat.mod_le ((resizeFor panel frame).fbWidth.toNat * (resizeFor panel frame).fbHeight.toNat * 4) (2 ^ 64)
      rw [DisplayPanel.Sized] at resized
      omega
    right
    rw [value]
    exact fromDirtyRect_rowCopy fits (List.mem_range.mp rowMember) inBuffer start stop

end Blit

def wrapPanel : DisplayPanel := ⟨1, 1, [0, 0, 0, 0]⟩

def wrapFrame : DisplayFrame := ⟨2, 1, 1, 1, 0x3FFFFFFF, 0, List.replicate 8 0xFF⟩

theorem updateFrame_writes_past_framebuffer :
    frameCopies (resizeFor wrapPanel wrapFrame) wrapFrame = [⟨0xFFFFFFFC, 0, 8⟩] ∧
      updateFrame wrapPanel wrapFrame = none := by
  decide

-- A full frame into an empty panel, then one pixel at `(1, 0)` of the 2 × 1 framebuffer.
theorem updateFrame_blits_after_full_frame :
    let start : DisplayPanel := ⟨0, 0, []⟩
    let earlier : List DisplayFrame := [⟨2, 1, 2, 1, 0, 0, [1, 2, 3, 4, 5, 6, 7, 8]⟩]
    let panel : DisplayPanel := ⟨2, 1, [1, 2, 3, 4, 5, 6, 7, 8]⟩
    let frame : DisplayFrame := ⟨1, 1, 2, 1, 1, 0, [9, 9, 9, 9]⟩
    start.Sized ∧ updateFrames start earlier = some panel ∧ NoWrap frame (resizeFor panel frame).fbWidth.toNat ∧
      ∃ next, updateFrame panel frame = some next ∧ next.Sized ∧
        next.fbWidth = (resizeFor panel frame).fbWidth ∧ next.fbHeight = (resizeFor panel frame).fbHeight ∧
        ∀ k, next.framebuffer[k]? = (resizeFor panel frame).framebuffer[k]? ∨
          FromDirtyRect frame next.fbWidth.toNat next.fbHeight.toNat k next.framebuffer[k]? :=
  have fresh : (⟨0, 0, []⟩ : DisplayPanel).Sized := rfl
  have shown : updateFrames ⟨0, 0, []⟩ [⟨2, 1, 2, 1, 0, 0, [1, 2, 3, 4, 5, 6, 7, 8]⟩] =
      some ⟨2, 1, [1, 2, 3, 4, 5, 6, 7, 8]⟩ := by decide
  have fits : NoWrap ⟨1, 1, 2, 1, 1, 0, [9, 9, 9, 9]⟩
      (resizeFor ⟨2, 1, [1, 2, 3, 4, 5, 6, 7, 8]⟩ ⟨1, 1, 2, 1, 1, 0, [9, 9, 9, 9]⟩).fbWidth.toNat :=
    ⟨by decide, by decide, by decide⟩
  ⟨fresh, shown, fits, updateFrame_blits fresh shown _ fits⟩

/-- `UpdateFrame` leaves a buffer only through a wrapped `uint32_t` sum: when one of its
`memcpy`s would read or write outside a buffer, some copy's exact end reaches `2 ^ 32`, so
the guards, which are right in exact arithmetic, passed it modulo `2 ^ 32`. -/
theorem updateFrame_fails_only_by_wrapping (panel : DisplayPanel) (frame : DisplayFrame)
    (failed : updateFrame panel frame = none) :
    ∃ copy ∈ frameCopies (resizeFor panel frame) frame,
      2 ^ 32 ≤ copy.dst + copy.len ∨ 2 ^ 32 ≤ copy.src + copy.len := by
  by_contra unwrapped
  push_neg at unwrapped
  have inside : ∀ copy ∈ frameCopies (resizeFor panel frame) frame,
      copy.dst + copy.len ≤ (resizeFor panel frame).framebuffer.length ∧
        copy.src + copy.len ≤ frame.pixels.length := by
    intro copy member
    obtain ⟨dstFits, srcFits⟩ := unwrapped copy member
    obtain ⟨-, source, target⟩ := blitRows_guarded frame _ _ _ copy member
    rw [Nat.mod_eq_of_lt srcFits] at source
    rw [Nat.mod_eq_of_lt dstFits] at target
    exact ⟨target, source⟩
  obtain ⟨written, copied, -⟩ := foldlM_memcpy_spec frame.pixels _ _ inside
  rw [updateFrame, copied] at failed
  cases failed

theorem updateFrame_fails_only_by_wrapping_at_wrap :
    updateFrame wrapPanel wrapFrame = none ∧
      ∃ copy ∈ frameCopies (resizeFor wrapPanel wrapFrame) wrapFrame,
        2 ^ 32 ≤ copy.dst + copy.len ∨ 2 ^ 32 ≤ copy.src + copy.len :=
  have failed : updateFrame wrapPanel wrapFrame = none := by decide
  ⟨failed, updateFrame_fails_only_by_wrapping _ _ failed⟩

end Tenbox.Ui
