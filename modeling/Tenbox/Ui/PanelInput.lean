import Mathlib

/-!
The input side of `DisplayPanel` in ui/win32/win32_display_panel.cpp. `WndProc` hands key
messages to `HandleKey` and mouse messages to `HandleMouse`, and on `WM_KILLFOCUS` drops the
capture and the held buttons. While the panel holds the capture it forwards each key to
`key_cb_` as the evdev code `VkToEvdev` (ui/win32/vk_to_evdev.h) gives, and each mouse message
to `pointer_cb_`, scaled to `0..32767` over the display rectangle. A left click takes the
capture and is not forwarded; Ctrl+Alt gives it up, and the key that completes the
combination is not forwarded either.

What the window reports is part of a message: `GetKeyState` of Ctrl and Alt for a key; for
a mouse message the client size less the hint bar, and the rectangle `CalcDisplayRect`
computes, which scales in `double` and is left out. The `int` differences are exact, as
they are for a rectangle inside the client area. The callbacks are taken as installed, the
repaints are left out, and the virtual-key codes are those of winuser.h.
-/

namespace Tenbox.Ui

def vkShift : BitVec 32 := 0x10
def vkControl : BitVec 32 := 0x11
def vkMenu : BitVec 32 := 0x12
def vkLShift : BitVec 32 := 0xA0
def vkRShift : BitVec 32 := 0xA1
def vkLControl : BitVec 32 := 0xA2
def vkRControl : BitVec 32 := 0xA3
def vkLMenu : BitVec 32 := 0xA4
def vkRMenu : BitVec 32 := 0xA5

-- `kMap` of `VkToEvdev`, in its order: each virtual key, named by its `VK_` code or its
-- character, with its evdev code.
def kMap : List (BitVec 16 × BitVec 16) :=
  [
    -- ESCAPE '1' '2' '3' '4' '5'
    (0x1B, 1), (0x31, 2), (0x32, 3), (0x33, 4), (0x34, 5), (0x35, 6),
    -- '6' '7' '8' '9' '0' OEM_MINUS
    (0x36, 7), (0x37, 8), (0x38, 9), (0x39, 10), (0x30, 11), (0xBD, 12),
    -- OEM_PLUS BACK TAB 'Q' 'W' 'E'
    (0xBB, 13), (0x08, 14), (0x09, 15), (0x51, 16), (0x57, 17), (0x45, 18),
    -- 'R' 'T' 'Y' 'U' 'I' 'O'
    (0x52, 19), (0x54, 20), (0x59, 21), (0x55, 22), (0x49, 23), (0x4F, 24),
    -- 'P' OEM_4 OEM_6 RETURN LCONTROL 'A'
    (0x50, 25), (0xDB, 26), (0xDD, 27), (0x0D, 28), (0xA2, 29), (0x41, 30),
    -- 'S' 'D' 'F' 'G' 'H' 'J'
    (0x53, 31), (0x44, 32), (0x46, 33), (0x47, 34), (0x48, 35), (0x4A, 36),
    -- 'K' 'L' OEM_1 OEM_7 OEM_3 LSHIFT
    (0x4B, 37), (0x4C, 38), (0xBA, 39), (0xDE, 40), (0xC0, 41), (0xA0, 42),
    -- OEM_5 'Z' 'X' 'C' 'V' 'B'
    (0xDC, 43), (0x5A, 44), (0x58, 45), (0x43, 46), (0x56, 47), (0x42, 48),
    -- 'N' 'M' OEM_COMMA OEM_PERIOD OEM_2 RSHIFT
    (0x4E, 49), (0x4D, 50), (0xBC, 51), (0xBE, 52), (0xBF, 53), (0xA1, 54),
    -- MULTIPLY LMENU SPACE CAPITAL F1 F2
    (0x6A, 55), (0xA4, 56), (0x20, 57), (0x14, 58), (0x70, 59), (0x71, 60),
    -- F3 F4 F5 F6 F7 F8
    (0x72, 61), (0x73, 62), (0x74, 63), (0x75, 64), (0x76, 65), (0x77, 66),
    -- F9 F10 NUMLOCK SCROLL NUMPAD7 NUMPAD8
    (0x78, 67), (0x79, 68), (0x90, 69), (0x91, 70), (0x67, 71), (0x68, 72),
    -- NUMPAD9 SUBTRACT NUMPAD4 NUMPAD5 NUMPAD6 ADD
    (0x69, 73), (0x6D, 74), (0x64, 75), (0x65, 76), (0x66, 77), (0x6B, 78),
    -- NUMPAD1 NUMPAD2 NUMPAD3 NUMPAD0 DECIMAL F11
    (0x61, 79), (0x62, 80), (0x63, 81), (0x60, 82), (0x6E, 83), (0x7A, 87),
    -- F12 RCONTROL DIVIDE RMENU HOME UP
    (0x7B, 88), (0xA3, 97), (0x6F, 98), (0xA5, 100), (0x24, 102), (0x26, 103),
    -- PRIOR LEFT RIGHT END DOWN NEXT
    (0x21, 104), (0x25, 105), (0x27, 106), (0x23, 107), (0x28, 108), (0x22, 109),
    -- INSERT DELETE PAUSE LWIN RWIN APPS
    (0x2D, 110), (0x2E, 111), (0x13, 119), (0x5B, 125), (0x5C, 126), (0x5D, 127),
    -- CONTROL SHIFT MENU
    (0x11, 29), (0x10, 42), (0x12, 56)
  ]

def vkToEvdev (vk : BitVec 32) : BitVec 32 :=
  ((kMap.find? fun entry => entry.1 = vk.setWidth 16).map fun entry => entry.2.setWidth 32).getD 0

inductive KeyMessage where
  | keyDown
  | keyUp
  | sysKeyDown
  | sysKeyUp
  deriving DecidableEq, Repr

def KeyMessage.pressed : KeyMessage → Bool
  | .keyDown | .sysKeyDown => true
  | .keyUp | .sysKeyUp => false

inductive MouseMessage where
  | lButtonDown
  | lButtonUp
  | rButtonDown
  | rButtonUp
  | mButtonDown
  | mButtonUp
  | mouseMove
  deriving DecidableEq, Repr

structure Rect where
  left : Int
  top : Int
  right : Int
  bottom : Int
  deriving DecidableEq, Repr

-- A message `WndProc` routes, with what the window reports along with it.
inductive WindowMessage where
  | key (msg : KeyMessage) (wp lp : BitVec 64) (ctrlDown altDown : Bool)
  | mouse (msg : MouseMessage) (lp : BitVec 64) (cw ch : Int) (dst : Rect)
  | killFocus
  deriving DecidableEq

def WindowMessage.takesCapture : WindowMessage → Bool
  | .mouse .lButtonDown _ _ _ _ => true
  | _ => false

-- A call of `key_cb_` or of `pointer_cb_`.
inductive GuestInput where
  | key (code : BitVec 32) (pressed : Bool)
  | pointer (x y : Int) (buttons : BitVec 32)
  deriving DecidableEq, Repr

structure PanelInput where
  captured : Bool
  mouseButtons : BitVec 32
  deriving DecidableEq, Repr

-- The left or right key for a generic Ctrl, Alt or Shift, from the extended bit and the
-- scan code in `lp`.
def sidedKey (vk : BitVec 32) (lp : BitVec 64) : BitVec 32 :=
  let scancode := ((lp >>> 16) &&& 0xFF).setWidth 32
  let extended := (lp >>> 24) &&& 1 ≠ 0
  let vk := if vk = vkControl then (if extended then vkRControl else vkLControl) else vk
  let vk := if vk = vkMenu then (if extended then vkRMenu else vkLMenu) else vk
  if vk = vkShift then (if scancode = 0x36 then vkRShift else vkLShift) else vk

def handleKey (panel : PanelInput) (msg : KeyMessage) (wp lp : BitVec 64) (ctrlDown altDown : Bool) :
    PanelInput × List GuestInput :=
  let vk := wp.setWidth 32
  if !panel.captured then (panel, [])
  else if msg.pressed ∧ (vk = vkMenu ∨ vk = vkLMenu ∨ vk = vkRMenu) ∧ ctrlDown then
    ({ panel with captured := false }, [])
  else if msg.pressed ∧ (vk = vkControl ∨ vk = vkLControl ∨ vk = vkRControl) ∧ altDown then
    ({ panel with captured := false }, [])
  else
    let evdev := vkToEvdev (sidedKey vk lp)
    (panel, if evdev ≠ 0 then [.key evdev msg.pressed] else [])

def buttonsAfter (buttons : BitVec 32) : MouseMessage → BitVec 32
  | .lButtonDown => buttons ||| 1
  | .lButtonUp => buttons &&& ~~~1
  | .rButtonDown => buttons ||| 2
  | .rButtonUp => buttons &&& ~~~2
  | .mButtonDown => buttons ||| 4
  | .mButtonUp => buttons &&& ~~~4
  | .mouseMove => buttons

-- `GET_X_LPARAM` and `GET_Y_LPARAM`: the low and high words of `lp` as `short`s.
def getXLParam (lp : BitVec 64) : Int := (lp.setWidth 16).toInt

def getYLParam (lp : BitVec 64) : Int := ((lp >>> 16).setWidth 16).toInt

-- `static_cast<int64_t>(m - origin) * 32767 / extent` cast to `int32_t`, then clamped to
-- `0..32767`.
def absolute (m origin extent : Int) : Int :=
  max 0 (min (BitVec.ofInt 32 (((m - origin) * 32767).tdiv extent)).toInt 32767)

def handleMouse (panel : PanelInput) (msg : MouseMessage) (lp : BitVec 64) (cw ch : Int) (dst : Rect) :
    PanelInput × List GuestInput :=
  if !panel.captured ∧ msg = .lButtonDown then ({ panel with captured := true }, [])
  else if !panel.captured then (panel, [])
  else
    let panel := { panel with mouseButtons := buttonsAfter panel.mouseButtons msg }
    let dw := dst.right - dst.left
    let dh := dst.bottom - dst.top
    if cw ≤ 0 ∨ ch ≤ 0 ∨ dw ≤ 0 ∨ dh ≤ 0 then (panel, [])
    else
      (panel, [.pointer (absolute (getXLParam lp) dst.left dw) (absolute (getYLParam lp) dst.top dh)
        panel.mouseButtons])

namespace PanelInput

def step (panel : PanelInput) : WindowMessage → PanelInput × List GuestInput
  | .key msg wp lp ctrlDown altDown => handleKey panel msg wp lp ctrlDown altDown
  | .mouse msg lp cw ch dst => handleMouse panel msg lp cw ch dst
  | .killFocus => (⟨false, 0⟩, [])

def run (panel : PanelInput) : List WindowMessage → PanelInput × List GuestInput
  | [] => (panel, [])
  | message :: rest =>
    let after := (panel.step message).1.run rest
    (after.1, (panel.step message).2 ++ after.2)

theorem run_append (panel : PanelInput) (front back : List WindowMessage) :
    panel.run (front ++ back) =
      (((panel.run front).1.run back).1, (panel.run front).2 ++ ((panel.run front).1.run back).2) := by
  induction front generalizing panel with
  | nil => simp [run]
  | cons message rest ih => simp [run, ih]

-- Without the capture, only a left click does anything, and it forwards nothing.
theorem step_of_released {panel : PanelInput} (released : panel.captured = false) (message : WindowMessage)
    (noClick : message.takesCapture = false) :
    (panel.step message).2 = [] ∧ (panel.step message).1.captured = false := by
  cases message with
  | key msg wp lp ctrlDown altDown => simp [step, handleKey, released]
  | mouse msg lp cw ch dst =>
    cases msg <;> simp_all [step, handleMouse, WindowMessage.takesCapture]
  | killFocus => exact ⟨rfl, rfl⟩

theorem run_of_released {panel : PanelInput} (released : panel.captured = false) (messages : List WindowMessage)
    (noClick : ∀ message ∈ messages, message.takesCapture = false) :
    (panel.run messages).2 = [] ∧ (panel.run messages).1.captured = false := by
  induction messages generalizing panel with
  | nil => exact ⟨rfl, released⟩
  | cons message rest ih =>
    obtain ⟨silent, still⟩ := step_of_released released message (noClick message (.head rest))
    obtain ⟨quiet, after⟩ := ih still fun other mem => noClick other (.tail message mem)
    simp only [run, silent, quiet, List.append_nil, after, and_self]

theorem step_of_click {panel : PanelInput} (released : panel.captured = false) {click : WindowMessage}
    (clicks : click.takesCapture = true) : panel.step click = ({ panel with captured := true }, []) := by
  cases click with
  | mouse msg lp cw ch dst => cases msg <;> simp_all [step, handleMouse, WindowMessage.takesCapture]
  | _ => simp [WindowMessage.takesCapture] at clicks

theorem vkToEvdev_sidedKey_control (lp : BitVec 64) :
    vkToEvdev (sidedKey vkControl lp) = if (lp >>> 24) &&& 1 ≠ 0 then 97 else 29 := by
  by_cases extended : (lp >>> 24) &&& 1 ≠ 0
  · have right : sidedKey vkControl lp = vkRControl := by
      simp only [sidedKey, if_pos extended, ite_true, if_neg (by decide : vkRControl ≠ vkMenu),
        if_neg (by decide : vkRControl ≠ vkShift)]
    rw [right, if_pos extended]; decide
  · have left : sidedKey vkControl lp = vkLControl := by
      simp only [sidedKey, if_neg extended, ite_true, if_neg (by decide : vkLControl ≠ vkMenu),
        if_neg (by decide : vkLControl ≠ vkShift)]
    rw [left, if_neg extended]; decide

end PanelInput

open PanelInput

/-- Without the capture nothing reaches the guest until a left click takes it, and that
click is not forwarded either: from a released panel, what a run forwards is what the
messages after its first left click forward from the captured panel. -/
theorem nothing_reaches_guest_before_capture {panel : PanelInput} (released : panel.captured = false)
    (before : List WindowMessage) (noClick : ∀ message ∈ before, message.takesCapture = false)
    {click : WindowMessage} (clicks : click.takesCapture = true) (after : List WindowMessage) :
    (panel.run (before ++ click :: after)).2 = ({ (panel.run before).1 with captured := true }.run after).2 := by
  obtain ⟨silent, still⟩ := run_of_released released before noClick
  rw [run_append, silent, List.nil_append, run, step_of_click still clicks, List.nil_append]

def idlePanel : PanelInput := ⟨false, 0⟩

def clickAt : WindowMessage := .mouse .lButtonDown 0x012C0190 800 600 ⟨0, 0, 800, 600⟩

theorem nothing_reaches_guest_before_capture_of_typing :
    let before := [WindowMessage.key .keyDown 0x41 0 false false, .key .keyUp 0x41 0 false false]
    let after := [WindowMessage.mouse .mouseMove 0x012C0190 800 600 ⟨0, 0, 800, 600⟩]
    idlePanel.captured = false ∧ (∀ message ∈ before, message.takesCapture = false) ∧
      clickAt.takesCapture = true ∧
      (idlePanel.run (before ++ clickAt :: after)).2 = ({ (idlePanel.run before).1 with captured := true }.run after).2 :=
  ⟨rfl, by decide, rfl, @nothing_reaches_guest_before_capture idlePanel rfl _ (by decide) clickAt rfl _⟩

/-- Releasing the capture with Ctrl+Alt leaves Ctrl held in the guest. The Ctrl press is
forwarded, as left or right Ctrl by the extended bit of its `lp`; the Alt press that
follows releases the capture and is not forwarded; and until a left click captures again
nothing more is forwarded, so the guest never sees Ctrl released. -/
theorem ctrl_alt_release_leaves_ctrl_pressed {panel : PanelInput} (captured : panel.captured = true)
    {ctrlMsg altMsg : KeyMessage} (ctrlPressed : ctrlMsg.pressed = true) (altPressed : altMsg.pressed = true)
    (ctrlLp altLp : BitVec 64) (ctrlDown altDown : Bool) (rest : List WindowMessage)
    (noClick : ∀ message ∈ rest, message.takesCapture = false) :
    let messages := .key ctrlMsg 0x11 ctrlLp ctrlDown false :: .key altMsg 0x12 altLp true altDown :: rest
    (panel.run messages).2 = [.key (if (ctrlLp >>> 24) &&& 1 ≠ 0 then 97 else 29) true] ∧
      (panel.run messages).1.captured = false := by
  have ctrl : panel.step (.key ctrlMsg 0x11 ctrlLp ctrlDown false) =
      (panel, [.key (if (ctrlLp >>> 24) &&& 1 ≠ 0 then 97 else 29) true]) := by
    have control : (0x11 : BitVec 64).setWidth 32 = vkControl := rfl
    have notAlt : ¬(vkControl = vkMenu ∨ vkControl = vkLMenu ∨ vkControl = vkRMenu) := by decide
    have nonzero : (if (ctrlLp >>> 24) &&& 1 ≠ 0 then (97 : BitVec 32) else 29) ≠ 0 := by split <;> decide
    simp only [step, handleKey, captured, ctrlPressed, control, Bool.not_true, Bool.false_eq_true, if_false,
      true_and, notAlt, false_and, and_false, vkToEvdev_sidedKey_control, if_pos nonzero]
  have alt : panel.step (.key altMsg 0x12 altLp true altDown) = ({ panel with captured := false }, []) := by
    simp [step, handleKey, captured, altPressed, vkMenu]
  obtain ⟨silent, still⟩ := @run_of_released { panel with captured := false } rfl rest noClick
  simp only [run, ctrl, alt, silent, still, List.append_nil, List.nil_append, and_self]

def capturedPanel : PanelInput := ⟨true, 0⟩

theorem ctrl_alt_release_leaves_ctrl_pressed_after_releases :
    let rest := [WindowMessage.key .keyUp 0x11 0 false true, .key .sysKeyUp 0x12 0x20000000 false false]
    capturedPanel.captured = true ∧ KeyMessage.keyDown.pressed = true ∧ KeyMessage.sysKeyDown.pressed = true ∧
      (∀ message ∈ rest, message.takesCapture = false) ∧
      let messages := .key .keyDown 0x11 0 false false :: .key .sysKeyDown 0x12 0x20000000 true false :: rest
      (capturedPanel.run messages).2 = [.key (if ((0 : BitVec 64) >>> 24) &&& 1 ≠ 0 then 97 else 29) true] ∧
        (capturedPanel.run messages).1.captured = false :=
  ⟨rfl, rfl, rfl, by decide,
    @ctrl_alt_release_leaves_ctrl_pressed capturedPanel rfl .keyDown .sysKeyDown rfl rfl 0 0x20000000 false false _
      (by decide)⟩

theorem toInt_ofInt_of_small {q : Int} (low : 0 ≤ q) (high : q ≤ 32767) : (BitVec.ofInt 32 q).toInt = q := by
  have small : q % ((2 ^ 32 : Nat) : Int) = q := Int.emod_eq_of_lt low (by norm_num; omega)
  rw [BitVec.toInt_ofInt, Int.bmod_pos _ _ (by rw [small]; norm_num; omega), small]

-- Inside the display rectangle neither the `int32_t` cast nor the clamp changes the scaled offset.
theorem absolute_of_inside {m origin extent : Int} (positive : 0 < extent) (after : origin ≤ m)
    (before : m ≤ origin + extent) : absolute m origin extent = (m - origin) * 32767 / extent := by
  have scaled : 0 ≤ (m - origin) * 32767 := by omega
  have low : 0 ≤ (m - origin) * 32767 / extent := Int.ediv_nonneg scaled positive.le
  have high : (m - origin) * 32767 / extent ≤ 32767 := Int.ediv_le_of_le_mul positive (by nlinarith)
  rw [absolute, Int.tdiv_eq_ediv scaled positive.le, toInt_ofInt_of_small low high, min_eq_left high,
    max_eq_right low]

/-- With the capture held and a client area to draw in, a cursor inside the display
rectangle reaches the guest at its offset scaled to `0..32767`, exactly: the left and top
edges at 0, the right and bottom edges at 32767, and nothing in between clamped or wrapped
by the `int32_t` cast; the buttons are those the message leaves held. -/
theorem pointer_inside_display_is_scaled {panel : PanelInput} (captured : panel.captured = true) (msg : MouseMessage)
    (lp : BitVec 64) {cw ch : Int} (client : 0 < cw ∧ 0 < ch) {dst : Rect} (wide : dst.left < dst.right)
    (tall : dst.top < dst.bottom) (insideX : dst.left ≤ getXLParam lp ∧ getXLParam lp ≤ dst.right)
    (insideY : dst.top ≤ getYLParam lp ∧ getYLParam lp ≤ dst.bottom) :
    handleMouse panel msg lp cw ch dst =
      ({ panel with mouseButtons := buttonsAfter panel.mouseButtons msg },
        [.pointer ((getXLParam lp - dst.left) * 32767 / (dst.right - dst.left))
          ((getYLParam lp - dst.top) * 32767 / (dst.bottom - dst.top)) (buttonsAfter panel.mouseButtons msg)]) := by
  have notSmall : ¬(cw ≤ 0 ∨ ch ≤ 0 ∨ dst.right - dst.left ≤ 0 ∨ dst.bottom - dst.top ≤ 0) := by omega
  simp only [handleMouse, captured, Bool.not_true, Bool.false_eq_true, false_and, if_false, notSmall,
    absolute_of_inside (sub_pos.mpr wide) insideX.1 (by omega), absolute_of_inside (sub_pos.mpr tall) insideY.1 (by omega)]

theorem pointer_inside_display_is_scaled_at_centre :
    capturedPanel.captured = true ∧ (0 < (800 : Int) ∧ 0 < (600 : Int)) ∧ (0 : Int) < 800 ∧ (0 : Int) < 600 ∧
      ((0 : Int) ≤ getXLParam 0x012C0190 ∧ getXLParam 0x012C0190 ≤ 800) ∧
      ((0 : Int) ≤ getYLParam 0x012C0190 ∧ getYLParam 0x012C0190 ≤ 600) ∧
      handleMouse capturedPanel .mouseMove 0x012C0190 800 600 ⟨0, 0, 800, 600⟩ =
        ({ capturedPanel with mouseButtons := buttonsAfter capturedPanel.mouseButtons .mouseMove },
          [.pointer ((getXLParam 0x012C0190 - 0) * 32767 / (800 - 0)) ((getYLParam 0x012C0190 - 0) * 32767 / (600 - 0))
            (buttonsAfter capturedPanel.mouseButtons .mouseMove)]) :=
  ⟨rfl, by norm_num, by norm_num, by norm_num, by decide, by decide,
    @pointer_inside_display_is_scaled capturedPanel rfl .mouseMove 0x012C0190 800 600 (by norm_num) ⟨0, 0, 800, 600⟩
      (by norm_num) (by norm_num) (by decide) (by decide)⟩

end Tenbox.Ui
