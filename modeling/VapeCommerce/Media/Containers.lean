import VapeCommerce.Lib.Walk

set_option autoImplicit false

-- product-image-validator.service.ts: the walks that look for the exact end of an image file.
namespace VapeCommerce.Media.Containers

open VapeCommerce.Lib.Walk

abbrev Bytes := List UInt8

def maxSafeInteger : Nat := 9007199254740991

section Reads

variable (bytes : Bytes)

-- `none` is a read outside of the array.
def byteAt (offset : Nat) : Option Nat :=
  bytes[offset]?.map UInt8.toNat

def bigEndian : Nat -> Nat -> Option Nat
  | 0, _ => some 0
  | width + 1, offset => do
    let high <- bigEndian width offset
    let low <- byteAt bytes (offset + width)
    return high * 256 + low

def littleEndian : Nat -> Nat -> Option Nat
  | 0, _ => some 0
  | width + 1, offset => do
    let low <- byteAt bytes offset
    let high <- littleEndian width (offset + 1)
    return high * 256 + low

def readUInt16BE (offset : Nat) : Option Nat := bigEndian bytes 2 offset

def readUInt32BE (offset : Nat) : Option Nat := bigEndian bytes 4 offset

def readBigUInt64BE (offset : Nat) : Option Nat := bigEndian bytes 8 offset

def readUInt32LE (offset : Nat) : Option Nat := littleEndian bytes 4 offset

-- toString('ascii', start, stop) drops the highest bit of each byte.
def ascii (start stop : Nat) : List Nat :=
  ((bytes.drop start).take (stop - start)).map fun byte => byte.toNat % 128

end Reads

section Walks

variable (bytes : Bytes)

inductive SafeFormat
  | jpeg
  | png
  | webp
  | avif
deriving DecidableEq, Repr

def iend : List Nat := [0x49, 0x45, 0x4e, 0x44]

def pngTurn (offset : Nat) : Option (Turn Nat Bool) :=
  if offset + 12 <= bytes.length then do
    let length <- readUInt32BE bytes offset
    let stop := offset + 12 + length
    if stop > maxSafeInteger || stop > bytes.length then return .stop false
    else if ascii bytes (offset + 4) (offset + 8) = iend then
      return .stop (length == 0 && stop == bytes.length)
    else return .next stop
  else some (.stop false)

def isoTurn (offset : Nat) : Option (Turn Nat Bool) :=
  let advance (boxSize : Nat) : Turn Nat Bool :=
    if offset + boxSize > bytes.length then .stop false else .next (offset + boxSize)
  if offset < bytes.length then
    if offset + 8 > bytes.length then some (.stop false)
    else do
      let size32 <- readUInt32BE bytes offset
      if size32 = 0 then return .stop (offset + 8 <= bytes.length)
      else if size32 = 1 then
        if offset + 16 > bytes.length then return .stop false
        else do
          let size64 <- readBigUInt64BE bytes (offset + 8)
          if size64 > maxSafeInteger then return .stop false
          else if size64 < 16 then return .stop false
          else return advance size64
      else if size32 < 8 then return .stop false
      else return advance size32
  else some (.stop (offset == bytes.length))

-- Where the walk stands: at the head of the outer loop, in one of the two inner loops of a scan, or
-- in the inner loop over the fill bytes of a segment's marker.
inductive JpegPlace
  | loop (offset : Nat) (insideScan : Bool)
  | seek (offset : Nat)
  | scanFill (markerStart offset : Nat)
  | segmentFill (offset : Nat)

def isRestart (marker : Nat) : Bool :=
  0xd0 <= marker && marker <= 0xd7

def segmentTurn (marker offset : Nat) : Option (Turn JpegPlace Bool) :=
  if marker = 0xd9 then some (.stop (offset == bytes.length))
  else if marker = 0xd8 || marker = 0x00 then some (.stop false)
  else if marker = 0x01 || isRestart marker then some (.next (.loop offset false))
  else if offset + 2 > bytes.length then some (.stop false)
  else do
    let segmentLength <- readUInt16BE bytes offset
    if segmentLength < 2 || offset + segmentLength > bytes.length then return .stop false
    else return .next (.loop (offset + segmentLength) (marker == 0xda))

def jpegTurn : JpegPlace -> Option (Turn JpegPlace Bool)
  | .loop offset true =>
    if offset < bytes.length then some (.next (.seek offset)) else some (.stop false)
  | .loop offset false =>
    if offset < bytes.length then do
      let byte <- byteAt bytes offset
      if byte = 0xff then return .next (.segmentFill offset) else return .stop false
    else some (.stop false)
  | .seek offset =>
    if offset < bytes.length then do
      let byte <- byteAt bytes offset
      if byte = 0xff then return .next (.scanFill offset offset)
      else return .next (.seek (offset + 1))
    else some (.stop false)
  | .scanFill markerStart offset =>
    if offset < bytes.length then do
      let marker <- byteAt bytes offset
      if marker = 0xff then return .next (.scanFill markerStart (offset + 1))
      else if marker = 0x00 || isRestart marker then return .next (.loop (offset + 1) true)
      else if marker = 0xd9 then return .stop (offset + 1 == bytes.length)
      else return .next (.loop markerStart false)
    else some (.stop false)
  | .segmentFill offset =>
    if offset < bytes.length then do
      let marker <- byteAt bytes offset
      if marker = 0xff then return .next (.segmentFill (offset + 1))
      else segmentTurn bytes marker (offset + 1)
    else some (.stop false)

def hasExactIsoBmffBoundary (fuel : Nat) : Ending Bool :=
  walk (isoTurn bytes) fuel 0

def hasExactJpegBoundary (fuel : Nat) : Ending Bool :=
  if bytes.length < 4 then .returned false
  else
    match byteAt bytes 0, byteAt bytes 1 with
    | some first, some second =>
      if first = 0xff && second = 0xd8 then walk (jpegTurn bytes) fuel (.loop 2 false)
      else .returned false
    | _, _ => .fault

def hasExactContainerBoundary (fuel : Nat) : SafeFormat -> Ending Bool
  | .jpeg => hasExactJpegBoundary bytes fuel
  | .avif => hasExactIsoBmffBoundary bytes fuel
  | .webp =>
    if bytes.length >= 12 then
      match readUInt32LE bytes 4 with
      | some size => .returned (size + 8 == bytes.length)
      | none => .fault
    else .returned false
  | .png => walk (pngTurn bytes) fuel 8

end Walks

section Reading

variable {bytes : Bytes}

theorem byteAt_some {offset : Nat} (inside : offset < bytes.length) :
    exists byte, byteAt bytes offset = some byte := by
  simp [byteAt, List.getElem?_eq_getElem inside]

theorem byteAt_append {offset byte : Nat} (read : byteAt bytes offset = some byte) (more : Bytes) :
    byteAt (bytes ++ more) offset = some byte := by
  have inside : offset < bytes.length := by
    by_contra outside
    simp [byteAt, List.getElem?_eq_none (Nat.not_lt.1 outside)] at read
  simpa [byteAt, List.getElem?_append_left inside] using read

theorem bigEndian_some (width : Nat) {offset : Nat} (inside : offset + width <= bytes.length) :
    exists value, bigEndian bytes width offset = some value := by
  induction width with
  | zero => exact ⟨0, rfl⟩
  | succ width ih =>
    obtain ⟨high, read⟩ := ih (by omega)
    obtain ⟨low, read'⟩ := @byteAt_some bytes (offset + width) (by omega)
    exact ⟨high * 256 + low, by simp [bigEndian, read, read']⟩

theorem bigEndian_append (width : Nat) {offset value : Nat}
    (read : bigEndian bytes width offset = some value) (more : Bytes) :
    bigEndian (bytes ++ more) width offset = some value := by
  induction width generalizing value with
  | zero => exact read
  | succ width ih =>
    simp only [bigEndian, Option.bind_eq_bind, Option.bind_eq_some_iff, Option.pure_def] at read
    obtain ⟨high, first, low, last, same⟩ := read
    simp [bigEndian, ih first, byteAt_append last more, same]

theorem littleEndian_some (width : Nat) {offset : Nat} (inside : offset + width <= bytes.length) :
    exists value, littleEndian bytes width offset = some value := by
  induction width generalizing offset with
  | zero => exact ⟨0, rfl⟩
  | succ width ih =>
    obtain ⟨low, read⟩ := @byteAt_some bytes offset (by omega)
    obtain ⟨high, read'⟩ := @ih (offset + 1) (by omega)
    exact ⟨high * 256 + low, by simp [littleEndian, read, read']⟩

theorem littleEndian_append (width : Nat) {offset value : Nat}
    (read : littleEndian bytes width offset = some value) (more : Bytes) :
    littleEndian (bytes ++ more) width offset = some value := by
  induction width generalizing offset value with
  | zero => exact read
  | succ width ih =>
    simp only [littleEndian, Option.bind_eq_bind, Option.bind_eq_some_iff, Option.pure_def] at read
    obtain ⟨low, first, high, last, same⟩ := read
    simp [littleEndian, ih last, byteAt_append first more, same]

theorem ascii_append {start stop : Nat} (inside : stop <= bytes.length) (more : Bytes) :
    ascii (bytes ++ more) start stop = ascii bytes start stop := by
  simp only [ascii, List.drop_append, List.take_append, List.length_drop]
  rw [show stop - start - (bytes.length - start) = 0 by omega]
  simp

end Reading

section Termination

variable (bytes : Bytes)

theorem pngTurn_sound (offset : Nat) : exists taken, pngTurn bytes offset = some taken := by
  unfold pngTurn
  split
  next inside =>
    obtain ⟨length, read⟩ := @bigEndian_some bytes 4 offset (by omega)
    simp only [readUInt32BE, read, Option.bind_eq_bind, Option.bind_some, Option.pure_def]
    split
    next => exact ⟨_, rfl⟩
    next => split <;> exact ⟨_, rfl⟩
  next => exact ⟨_, rfl⟩

theorem pngTurn_next {offset later : Nat} (taken : pngTurn bytes offset = some (.next later)) :
    offset < later /\ later <= bytes.length := by
  unfold pngTurn at taken
  split at taken
  next inside =>
    obtain ⟨length, read⟩ := @bigEndian_some bytes 4 offset (by omega)
    simp only [readUInt32BE, read, Option.bind_eq_bind, Option.bind_some, Option.pure_def] at taken
    split at taken
    next => simp at taken
    next fits =>
      simp only [Bool.or_eq_true, decide_eq_true_eq, not_or, Nat.not_lt, gt_iff_lt] at fits
      split at taken
      next => simp at taken
      next =>
        obtain rfl := Turn.next.inj (Option.some.inj taken)
        omega
  next => simp at taken

theorem isoTurn_sound (offset : Nat) : exists taken, isoTurn bytes offset = some taken := by
  unfold isoTurn
  dsimp only
  split
  next =>
    split
    next => exact ⟨_, rfl⟩
    next inside =>
      obtain ⟨size32, read⟩ := @bigEndian_some bytes 4 offset (by omega)
      simp only [readUInt32BE, read, Option.bind_eq_bind, Option.bind_some, Option.pure_def]
      split
      next => exact ⟨_, rfl⟩
      next =>
        split
        next =>
          split
          next => exact ⟨_, rfl⟩
          next inside' =>
            obtain ⟨size64, read'⟩ := @bigEndian_some bytes 8 (offset + 8) (by omega)
            simp only [readBigUInt64BE, read', Option.bind_some]
            split
            next => exact ⟨_, rfl⟩
            next => split <;> exact ⟨_, rfl⟩
        next => split <;> exact ⟨_, rfl⟩
  next => exact ⟨_, rfl⟩

-- The size that the header at an offset declares for its box.
def BoxAt (offset size : Nat) : Prop :=
  (readUInt32BE bytes offset = some size /\ 8 <= size) \/
    readUInt32BE bytes offset = some 1 /\ readBigUInt64BE bytes (offset + 8) = some size /\ 16 <= size

theorem isoTurn_next {offset later : Nat} (taken : isoTurn bytes offset = some (.next later)) :
    exists size, later = offset + size /\ later <= bytes.length /\ offset + 8 <= bytes.length /\
      BoxAt bytes offset size := by
  have advances : forall size, (if offset + size > bytes.length then Turn.stop false
      else Turn.next (offset + size)) = Turn.next later ->
      later = offset + size /\ later <= bytes.length := by
    intro size same
    split at same
    next => simp at same
    next fits =>
      obtain rfl := Turn.next.inj same
      exact ⟨rfl, Nat.not_lt.1 fits⟩
  unfold isoTurn at taken
  dsimp only at taken
  split at taken
  next =>
    split at taken
    next => simp at taken
    next inside =>
      obtain ⟨size32, read⟩ := @bigEndian_some bytes 4 offset (by omega)
      simp only [readUInt32BE, read, Option.bind_eq_bind, Option.bind_some, Option.pure_def] at taken
      split at taken
      next => simp at taken
      next =>
        split at taken
        next one =>
          split at taken
          next => simp at taken
          next inside' =>
            obtain ⟨size64, read'⟩ := @bigEndian_some bytes 8 (offset + 8) (by omega)
            simp only [readBigUInt64BE, read', Option.bind_some] at taken
            split at taken
            next => simp at taken
            next =>
              split at taken
              next => simp at taken
              next large =>
                obtain ⟨same, fits⟩ := advances size64 (Option.some.inj taken)
                exact ⟨size64, same, fits, by omega,
                  .inr ⟨by rw [readUInt32BE, read, one], read', by omega⟩⟩
        next =>
          split at taken
          next => simp at taken
          next large =>
            obtain ⟨same, fits⟩ := advances size32 (Option.some.inj taken)
            exact ⟨size32, same, fits, by omega, .inl ⟨read, by omega⟩⟩
  next => simp at taken

theorem isoTurn_stop {offset : Nat} (taken : isoTurn bytes offset = some (.stop true)) :
    offset = bytes.length \/
      offset + 8 <= bytes.length /\ readUInt32BE bytes offset = some 0 := by
  have advances : forall size, (if offset + size > bytes.length then Turn.stop false
      else Turn.next (offset + size)) ≠ Turn.stop true := by
    intro size
    split <;> simp
  unfold isoTurn at taken
  dsimp only at taken
  split at taken
  next =>
    split at taken
    next => simp at taken
    next inside =>
      obtain ⟨size32, read⟩ := @bigEndian_some bytes 4 offset (by omega)
      simp only [readUInt32BE, read, Option.bind_eq_bind, Option.bind_some, Option.pure_def] at taken
      split at taken
      next zero => exact .inr ⟨by omega, by rw [readUInt32BE, read, zero]⟩
      next =>
        split at taken
        next =>
          split at taken
          next => simp at taken
          next inside' =>
            obtain ⟨size64, read'⟩ := @bigEndian_some bytes 8 (offset + 8) (by omega)
            simp only [readBigUInt64BE, read', Option.bind_some] at taken
            split at taken
            next => simp at taken
            next =>
              split at taken
              next => simp at taken
              next => exact absurd (Option.some.inj taken) (advances size64)
        next =>
          split at taken
          next => simp at taken
          next => exact absurd (Option.some.inj taken) (advances size32)
  next =>
    simp only [Option.some.injEq, Turn.stop.injEq, beq_iff_eq] at taken
    exact .inl taken

theorem segmentTurn_sound (marker offset : Nat) :
    exists taken, segmentTurn bytes marker offset = some taken := by
  unfold segmentTurn
  repeat' split
  all_goals try exact ⟨_, rfl⟩
  next inside =>
    obtain ⟨segmentLength, read⟩ := @bigEndian_some bytes 2 offset (by omega)
    simp only [readUInt16BE, read, Option.bind_eq_bind, Option.bind_some, Option.pure_def]
    split <;> exact ⟨_, rfl⟩

-- A segment is followed by the head of the outer loop, behind its marker.
theorem segmentTurn_next {marker offset : Nat} {later : JpegPlace}
    (taken : segmentTurn bytes marker offset = some (.next later)) :
    exists offset' insideScan, later = .loop offset' insideScan /\ offset <= offset' := by
  unfold segmentTurn at taken
  split at taken
  next => simp at taken
  next =>
    split at taken
    next => simp at taken
    next =>
      split at taken
      next =>
        obtain rfl := Turn.next.inj (Option.some.inj taken)
        exact ⟨offset, false, rfl, Nat.le_refl _⟩
      next =>
        split at taken
        next => simp at taken
        next inside =>
          obtain ⟨segmentLength, read⟩ := @bigEndian_some bytes 2 offset (by omega)
          simp only [readUInt16BE, read, Option.bind_eq_bind, Option.bind_some,
            Option.pure_def] at taken
          split at taken
          next => simp at taken
          next =>
            obtain rfl := Turn.next.inj (Option.some.inj taken)
            exact ⟨_, _, rfl, Nat.le_add_right ..⟩

theorem jpegTurn_sound (place : JpegPlace) : exists taken, jpegTurn bytes place = some taken := by
  cases place with
  | loop offset insideScan =>
    cases insideScan with
    | true =>
      simp only [jpegTurn]
      split <;> exact ⟨_, rfl⟩
    | false =>
      simp only [jpegTurn]
      split
      next inside =>
        obtain ⟨byte, read⟩ := byteAt_some inside
        simp only [read, Option.bind_eq_bind, Option.bind_some, Option.pure_def]
        split <;> exact ⟨_, rfl⟩
      next => exact ⟨_, rfl⟩
  | seek offset =>
    simp only [jpegTurn]
    split
    next inside =>
      obtain ⟨byte, read⟩ := byteAt_some inside
      simp only [read, Option.bind_eq_bind, Option.bind_some, Option.pure_def]
      split <;> exact ⟨_, rfl⟩
    next => exact ⟨_, rfl⟩
  | scanFill markerStart offset =>
    simp only [jpegTurn]
    split
    next inside =>
      obtain ⟨marker, read⟩ := byteAt_some inside
      simp only [read, Option.bind_eq_bind, Option.bind_some, Option.pure_def]
      repeat' split
      all_goals exact ⟨_, rfl⟩
    next => exact ⟨_, rfl⟩
  | segmentFill offset =>
    simp only [jpegTurn]
    split
    next inside =>
      obtain ⟨marker, read⟩ := byteAt_some inside
      simp only [read, Option.bind_eq_bind, Option.bind_some, Option.pure_def]
      split
      next => exact ⟨_, rfl⟩
      next => exact segmentTurn_sound bytes marker (offset + 1)
    next => exact ⟨_, rfl⟩

/-- What one turn of the JPEG walk can go on with. -/
theorem jpegTurn_next {place later : JpegPlace}
    (taken : jpegTurn bytes place = some (.next later)) :
    match place with
    | .loop offset true => offset < bytes.length /\ later = .seek offset
    | .loop offset false => offset < bytes.length /\ later = .segmentFill offset
    | .seek offset => offset < bytes.length /\
      (later = .scanFill offset offset \/ later = .seek (offset + 1))
    | .scanFill markerStart offset => offset < bytes.length /\
      (later = .scanFill markerStart (offset + 1) \/ later = .loop (offset + 1) true \/
        later = .loop markerStart false)
    | .segmentFill offset => offset < bytes.length /\
      (later = .segmentFill (offset + 1) \/
        exists offset' insideScan, later = .loop offset' insideScan /\ offset < offset') := by
  cases place with
  | loop offset insideScan =>
    cases insideScan with
    | true =>
      simp only [jpegTurn] at taken
      split at taken
      next inside => exact ⟨inside, (Turn.next.inj (Option.some.inj taken)).symm⟩
      next => simp at taken
    | false =>
      simp only [jpegTurn] at taken
      split at taken
      next inside =>
        obtain ⟨byte, read⟩ := byteAt_some inside
        simp only [read, Option.bind_eq_bind, Option.bind_some, Option.pure_def] at taken
        split at taken
        next => exact ⟨inside, (Turn.next.inj (Option.some.inj taken)).symm⟩
        next => simp at taken
      next => simp at taken
  | seek offset =>
    simp only [jpegTurn] at taken
    split at taken
    next inside =>
      obtain ⟨byte, read⟩ := byteAt_some inside
      simp only [read, Option.bind_eq_bind, Option.bind_some, Option.pure_def] at taken
      split at taken
      next => exact ⟨inside, .inl (Turn.next.inj (Option.some.inj taken)).symm⟩
      next => exact ⟨inside, .inr (Turn.next.inj (Option.some.inj taken)).symm⟩
    next => simp at taken
  | scanFill markerStart offset =>
    simp only [jpegTurn] at taken
    split at taken
    next inside =>
      obtain ⟨marker, read⟩ := byteAt_some inside
      simp only [read, Option.bind_eq_bind, Option.bind_some, Option.pure_def] at taken
      split at taken
      next => exact ⟨inside, .inl (Turn.next.inj (Option.some.inj taken)).symm⟩
      next =>
        split at taken
        next => exact ⟨inside, .inr (.inl (Turn.next.inj (Option.some.inj taken)).symm)⟩
        next =>
          split at taken
          next => simp at taken
          next => exact ⟨inside, .inr (.inr (Turn.next.inj (Option.some.inj taken)).symm)⟩
    next => simp at taken
  | segmentFill offset =>
    simp only [jpegTurn] at taken
    split at taken
    next inside =>
      obtain ⟨marker, read⟩ := byteAt_some inside
      simp only [read, Option.bind_eq_bind, Option.bind_some, Option.pure_def] at taken
      split at taken
      next => exact ⟨inside, .inl (Turn.next.inj (Option.some.inj taken)).symm⟩
      next =>
        obtain ⟨offset', insideScan, same, behind⟩ := segmentTurn_next bytes taken
        exact ⟨inside, .inr ⟨offset', insideScan, same, behind⟩⟩
    next => simp at taken

-- A walk that leaves a scan goes back to the start of the marker, never in front of it.
def JpegPlace.Ordered : JpegPlace -> Prop
  | .scanFill markerStart offset => markerStart <= offset
  | _ => True

-- The bytes that are left come first, then how far the turn is in its round.
def jpegMeasure (place : JpegPlace) : Nat :=
  let round (offset phase : Nat) : Nat := (bytes.length - offset) * (bytes.length + 6) + phase
  match place with
  | .loop offset true => round offset (bytes.length + 5)
  | .seek offset => round offset (bytes.length + 4)
  | .scanFill markerStart offset => round markerStart (3 + (bytes.length - offset))
  | .loop offset false => round offset 2
  | .segmentFill offset => round offset 1

theorem round_lower {left left' width phase phase' : Nat} (fewer : left' < left)
    (within : phase' < width) : left' * width + phase' < left * width + phase := by
  have whole : (left' + 1) * width <= left * width := Nat.mul_le_mul_right width fewer
  rw [Nat.succ_mul] at whole
  omega

theorem jpegMeasure_loop (offset : Nat) (insideScan : Bool) (left phase : Nat)
    (fewer : bytes.length - offset < left) :
    jpegMeasure bytes (.loop offset insideScan) < left * (bytes.length + 6) + phase := by
  cases insideScan
  next => exact round_lower fewer (by omega)
  next => exact round_lower fewer (by omega)

theorem jpegTurn_lower (place later : JpegPlace) (ordered : place.Ordered)
    (taken : jpegTurn bytes place = some (.next later)) :
    later.Ordered /\ jpegMeasure bytes later < jpegMeasure bytes place := by
  have goes := jpegTurn_next bytes taken
  cases place with
  | loop offset insideScan =>
    cases insideScan with
    | true =>
      obtain ⟨_, rfl⟩ := goes
      exact ⟨trivial, by simp [jpegMeasure]⟩
    | false =>
      obtain ⟨_, rfl⟩ := goes
      exact ⟨trivial, by simp [jpegMeasure]⟩
  | seek offset =>
    obtain ⟨inside, rfl | rfl⟩ := goes
    next => exact ⟨Nat.le_refl _, by simp only [jpegMeasure]; omega⟩
    next => exact ⟨trivial, round_lower (by omega) (by omega)⟩
  | scanFill markerStart offset =>
    have behind : markerStart <= offset := ordered
    obtain ⟨inside, rfl | rfl | rfl⟩ := goes
    next => exact ⟨Nat.le_succ_of_le behind, by simp only [jpegMeasure]; omega⟩
    next => exact ⟨trivial, jpegMeasure_loop bytes (offset + 1) true _ _ (by omega)⟩
    next => exact ⟨trivial, by simp only [jpegMeasure]; omega⟩
  | segmentFill offset =>
    obtain ⟨inside, rfl | ⟨offset', insideScan, rfl, behind⟩⟩ := goes
    next => exact ⟨trivial, round_lower (by omega) (by omega)⟩
    next => exact ⟨trivial, jpegMeasure_loop bytes offset' insideScan _ _ (by omega)⟩

end Termination

section Totality

variable (bytes : Bytes)

-- The run reads nothing outside of the array and, given enough turns, returns.
def Total (run : Nat -> Ending Bool) : Prop :=
  (forall fuel, run fuel ≠ .fault) /\
    exists enough verdict, forall fuel, enough <= fuel -> run fuel = .returned verdict

theorem total_returned (verdict : Bool) : Total fun _ => .returned verdict :=
  ⟨by simp, 0, verdict, fun _ _ => rfl⟩

theorem total_walk {S : Type} {turn : S -> Option (Turn S Bool)} (inv : S -> Prop)
    (measure : S -> Nat) (sound : forall state, exists taken, turn state = some taken)
    (lower : forall state later, inv state -> turn state = some (.next later) ->
      inv later /\ measure later < measure state)
    (state : S) (holds : inv state) : Total fun fuel => walk turn fuel state := by
  refine ⟨fun fuel => walk_safe inv (fun state _ => sound state)
    (fun state later holds taken => (lower state later holds taken).1) fuel state holds,
    measure state + 1, ?_⟩
  obtain ⟨verdict, returned⟩ := walk_returns inv measure (fun state _ => sound state) lower
    (measure state + 1) state holds (Nat.lt_succ_self _)
  exact ⟨verdict, fun fuel enough => walk_more enough state returned⟩

theorem pngWalk_total : Total fun fuel => walk (pngTurn bytes) fuel 8 := by
  refine total_walk (fun _ => True) (fun offset => bytes.length - offset) (pngTurn_sound bytes)
    (fun offset later _ taken => ⟨trivial, ?_⟩) 8 trivial
  have goes := pngTurn_next bytes taken
  omega

theorem isoWalk_total : Total (hasExactIsoBmffBoundary bytes) := by
  refine total_walk (fun _ => True) (fun offset => bytes.length - offset) (isoTurn_sound bytes)
    (fun offset later _ taken => ⟨trivial, ?_⟩) 0 trivial
  obtain ⟨size, rfl, fits, inside, box⟩ := isoTurn_next bytes taken
  have some : 8 <= size := by
    rcases box with ⟨_, large⟩ | ⟨_, _, large⟩ <;> omega
  omega

theorem jpegWalk_total : Total (hasExactJpegBoundary bytes) := by
  unfold hasExactJpegBoundary
  split
  next => exact total_returned false
  next long =>
    obtain ⟨first, read⟩ := @byteAt_some bytes 0 (by omega)
    obtain ⟨second, read'⟩ := @byteAt_some bytes 1 (by omega)
    simp only [read, read']
    split
    next =>
      exact total_walk JpegPlace.Ordered (jpegMeasure bytes) (jpegTurn_sound bytes)
        (jpegTurn_lower bytes) (.loop 2 false) trivial
    next => exact total_returned false

theorem container_total (format : SafeFormat) :
    Total fun fuel => hasExactContainerBoundary bytes fuel format := by
  cases format with
  | jpeg => exact jpegWalk_total bytes
  | png => exact pngWalk_total bytes
  | avif => exact isoWalk_total bytes
  | webp =>
    simp only [hasExactContainerBoundary]
    split
    next long =>
      obtain ⟨size, read⟩ := @littleEndian_some bytes 4 4 (by omega)
      simp only [readUInt32LE, read]
      exact total_returned _
    next => exact total_returned false

end Totality

section Endings

def Accepted (format : SafeFormat) (bytes : Bytes) : Prop :=
  exists fuel, hasExactContainerBoundary bytes fuel format = .returned true

variable {bytes : Bytes}

theorem length_ne {more : Bytes} (some : more ≠ []) (offset : Nat) (inside : offset <= bytes.length) :
    (offset == (bytes ++ more).length) = false := by
  have positive := List.length_pos_iff.2 some
  simp only [List.length_append, beq_eq_false_iff_ne]
  omega

theorem pngTurn_extension {more : Bytes} {offset later : Nat}
    (taken : pngTurn bytes offset = some (.next later)) :
    pngTurn (bytes ++ more) offset = some (.next later) := by
  unfold pngTurn at taken ⊢
  split at taken
  next inside =>
    have inside' : offset + 12 <= (bytes ++ more).length := by
      simp only [List.length_append]
      omega
    obtain ⟨length, read⟩ := @bigEndian_some bytes 4 offset (by omega)
    have read' := bigEndian_append 4 read more
    rw [if_pos inside']
    simp only [readUInt32BE, read, read', Option.bind_eq_bind, Option.bind_some,
      Option.pure_def] at taken ⊢
    split at taken
    next => simp at taken
    next fits =>
      simp only [Bool.or_eq_true, decide_eq_true_eq, not_or, Nat.not_lt, gt_iff_lt] at fits
      have fits' : Not ((decide (offset + 12 + length > maxSafeInteger) ||
          decide (offset + 12 + length > (bytes ++ more).length)) = true) := by
        simp only [Bool.or_eq_true, decide_eq_true_eq, not_or, Nat.not_lt, gt_iff_lt,
          List.length_append]
        omega
      rw [if_neg fits', ascii_append (by omega)]
      split at taken
      next => simp at taken
      next other => simpa [other] using taken
  next => simp at taken

theorem pngTurn_longer {more : Bytes} (some : more ≠ []) {offset : Nat}
    (taken : pngTurn bytes offset = Option.some (.stop true)) :
    pngTurn (bytes ++ more) offset = Option.some (.stop false) := by
  unfold pngTurn at taken ⊢
  split at taken
  next inside =>
    have inside' : offset + 12 <= (bytes ++ more).length := by
      simp only [List.length_append]
      omega
    obtain ⟨length, read⟩ := @bigEndian_some bytes 4 offset (by omega)
    have read' := bigEndian_append 4 read more
    rw [if_pos inside']
    simp only [readUInt32BE, read, read', Option.bind_eq_bind, Option.bind_some,
      Option.pure_def] at taken ⊢
    split at taken
    next => simp at taken
    next fits =>
      simp only [Bool.or_eq_true, decide_eq_true_eq, not_or, Nat.not_lt, gt_iff_lt] at fits
      have differs := length_ne some (offset + 12 + length) fits.2
      split
      next => rfl
      next =>
        rw [ascii_append (by omega)]
        split at taken
        next last => rw [if_pos last, differs, Bool.and_false]
        next => simp at taken
  next => simp at taken

theorem segmentTurn_extension {more : Bytes} {marker offset : Nat} {later : JpegPlace}
    (taken : segmentTurn bytes marker offset = some (.next later)) :
    segmentTurn (bytes ++ more) marker offset = some (.next later) := by
  unfold segmentTurn at taken ⊢
  split at taken
  next => simp at taken
  next other =>
    rw [if_neg other]
    split at taken
    next => simp at taken
    next other' =>
      rw [if_neg other']
      split at taken
      next single => rw [if_pos single, taken]
      next several =>
        rw [if_neg several]
        split at taken
        next => simp at taken
        next inside =>
          obtain ⟨segmentLength, read⟩ := @bigEndian_some bytes 2 offset (by omega)
          have read' := bigEndian_append 2 read more
          have inside' : Not (offset + 2 > (bytes ++ more).length) := by
            simp only [List.length_append]
            omega
          rw [if_neg inside']
          simp only [readUInt16BE, read, read', Option.bind_eq_bind, Option.bind_some,
            Option.pure_def] at taken ⊢
          split at taken
          next => simp at taken
          next fits =>
            simp only [Bool.or_eq_true, decide_eq_true_eq, not_or, Nat.not_lt, gt_iff_lt] at fits
            have fits' : Not ((decide (segmentLength < 2) ||
                decide (offset + segmentLength > (bytes ++ more).length)) = true) := by
              simp only [Bool.or_eq_true, decide_eq_true_eq, not_or, Nat.not_lt, gt_iff_lt,
                List.length_append]
              omega
            rw [if_neg fits', taken]

theorem segmentTurn_longer {more : Bytes} (some : more ≠ []) {marker offset : Nat}
    (taken : segmentTurn bytes marker offset = Option.some (.stop true)) :
    segmentTurn (bytes ++ more) marker offset = Option.some (.stop false) := by
  unfold segmentTurn at taken ⊢
  split at taken
  next last =>
    simp only [Option.some.injEq, Turn.stop.injEq, beq_iff_eq] at taken
    rw [if_pos last, length_ne some offset (by omega)]
  next =>
    split at taken
    next => simp at taken
    next =>
      split at taken
      next => simp at taken
      next =>
        split at taken
        next => simp at taken
        next inside =>
          obtain ⟨segmentLength, read⟩ := @bigEndian_some bytes 2 offset (by omega)
          simp only [readUInt16BE, read, Option.bind_eq_bind, Option.bind_some,
            Option.pure_def] at taken
          split at taken <;> simp at taken

theorem longer {more : Bytes} {offset : Nat} (inside : offset < bytes.length) :
    offset < (bytes ++ more).length := by
  simp only [List.length_append]
  omega

theorem jpegTurn_extension {more : Bytes} {place later : JpegPlace}
    (taken : jpegTurn bytes place = some (.next later)) :
    jpegTurn (bytes ++ more) place = some (.next later) := by
  cases place with
  | loop offset insideScan =>
    cases insideScan with
    | true =>
      simp only [jpegTurn] at taken ⊢
      split at taken
      next inside => rw [if_pos (longer inside), taken]
      next => simp at taken
    | false =>
      simp only [jpegTurn] at taken ⊢
      split at taken
      next inside =>
        obtain ⟨byte, read⟩ := byteAt_some inside
        rw [if_pos (longer inside), byteAt_append read more]
        rw [read] at taken
        exact taken
      next => simp at taken
  | seek offset =>
    simp only [jpegTurn] at taken ⊢
    split at taken
    next inside =>
      obtain ⟨byte, read⟩ := byteAt_some inside
      rw [if_pos (longer inside), byteAt_append read more]
      rw [read] at taken
      exact taken
    next => simp at taken
  | scanFill markerStart offset =>
    simp only [jpegTurn] at taken ⊢
    split at taken
    next inside =>
      obtain ⟨marker, read⟩ := byteAt_some inside
      rw [if_pos (longer inside), byteAt_append read more]
      rw [read] at taken
      simp only [Option.bind_eq_bind, Option.bind_some, Option.pure_def] at taken ⊢
      split at taken
      next fill => rw [if_pos fill, taken]
      next other =>
        rw [if_neg other]
        split at taken
        next stuffed => rw [if_pos stuffed, taken]
        next other' =>
          rw [if_neg other']
          split at taken
          next => simp at taken
          next leaves => rw [if_neg leaves, taken]
    next => simp at taken
  | segmentFill offset =>
    simp only [jpegTurn] at taken ⊢
    split at taken
    next inside =>
      obtain ⟨marker, read⟩ := byteAt_some inside
      rw [if_pos (longer inside), byteAt_append read more]
      rw [read] at taken
      simp only [Option.bind_eq_bind, Option.bind_some, Option.pure_def] at taken ⊢
      split at taken
      next fill => rw [if_pos fill, taken]
      next other => rw [if_neg other, segmentTurn_extension taken]
    next => simp at taken

theorem jpegTurn_longer {more : Bytes} (some : more ≠ []) {place : JpegPlace}
    (taken : jpegTurn bytes place = Option.some (.stop true)) :
    jpegTurn (bytes ++ more) place = Option.some (.stop false) := by
  cases place with
  | loop offset insideScan =>
    cases insideScan with
    | true =>
      simp only [jpegTurn] at taken
      split at taken <;> simp at taken
    | false =>
      simp only [jpegTurn] at taken
      split at taken
      next inside =>
        obtain ⟨byte, read⟩ := byteAt_some inside
        simp only [read, Option.bind_eq_bind, Option.bind_some, Option.pure_def] at taken
        split at taken <;> simp at taken
      next => simp at taken
  | seek offset =>
    simp only [jpegTurn] at taken
    split at taken
    next inside =>
      obtain ⟨byte, read⟩ := byteAt_some inside
      simp only [read, Option.bind_eq_bind, Option.bind_some, Option.pure_def] at taken
      split at taken <;> simp at taken
    next => simp at taken
  | scanFill markerStart offset =>
    simp only [jpegTurn] at taken ⊢
    split at taken
    next inside =>
      obtain ⟨marker, read⟩ := byteAt_some inside
      rw [if_pos (longer inside), byteAt_append read more]
      simp only [read, Option.bind_eq_bind, Option.bind_some, Option.pure_def] at taken ⊢
      split at taken
      next => simp at taken
      next other =>
        rw [if_neg other]
        split at taken
        next => simp at taken
        next other' =>
          rw [if_neg other']
          split at taken
          next ends => rw [if_pos ends, length_ne some (offset + 1) inside]
          next => simp at taken
    next => simp at taken
  | segmentFill offset =>
    simp only [jpegTurn] at taken ⊢
    split at taken
    next inside =>
      obtain ⟨marker, read⟩ := byteAt_some inside
      rw [if_pos (longer inside), byteAt_append read more]
      simp only [read, Option.bind_eq_bind, Option.bind_some, Option.pure_def] at taken ⊢
      split at taken
      next => simp at taken
      next other => rw [if_neg other, segmentTurn_longer some taken]
    next => simp at taken

-- An array that is accepted is rejected once anything follows it.
theorem jpeg_longer {more : Bytes} (some : more ≠ []) {fuel : Nat}
    (accepted : hasExactJpegBoundary bytes fuel = .returned true) :
    hasExactJpegBoundary (bytes ++ more) fuel = .returned false := by
  unfold hasExactJpegBoundary at accepted ⊢
  split at accepted
  next => simp at accepted
  next long =>
    have long' : Not ((bytes ++ more).length < 4) := by
      simp only [List.length_append]
      omega
    obtain ⟨first, read⟩ := @byteAt_some bytes 0 (by omega)
    obtain ⟨second, read'⟩ := @byteAt_some bytes 1 (by omega)
    rw [if_neg long', byteAt_append read more, byteAt_append read' more]
    simp only [read, read'] at accepted ⊢
    split at accepted
    next marked =>
      rw [if_pos marked]
      exact walk_beside (fun _ _ => jpegTurn_extension) (fun _ => jpegTurn_longer some) fuel _ accepted
    next => simp at accepted

theorem container_longer {format : SafeFormat} (exact' : format ≠ .avif) {more : Bytes}
    (some : more ≠ []) {fuel : Nat}
    (accepted : hasExactContainerBoundary bytes fuel format = .returned true) :
    hasExactContainerBoundary (bytes ++ more) fuel format = .returned false := by
  cases format with
  | jpeg => exact jpeg_longer some accepted
  | png =>
    exact walk_beside (fun _ _ => pngTurn_extension) (fun _ => pngTurn_longer some) fuel _ accepted
  | webp =>
    simp only [hasExactContainerBoundary] at accepted ⊢
    split at accepted
    next long =>
      have long' : (bytes ++ more).length >= 12 := by
        simp only [List.length_append]
        omega
      obtain ⟨size, read⟩ := @littleEndian_some bytes 4 4 (by omega)
      have read' := littleEndian_append 4 read more
      rw [if_pos long']
      simp only [readUInt32LE, read, read', Ending.returned.injEq, beq_iff_eq] at accepted ⊢
      exact length_ne some (size + 8) (by omega)
    next => simp at accepted
  | avif => exact absurd rfl exact'

theorem container_more {format : SafeFormat} {fuel more : Nat} (enough : fuel <= more)
    {verdict : Bool} (returned : hasExactContainerBoundary bytes fuel format = .returned verdict) :
    hasExactContainerBoundary bytes more format = .returned verdict := by
  cases format with
  | jpeg =>
    simp only [hasExactContainerBoundary, hasExactJpegBoundary] at returned ⊢
    split at returned
    next short => rw [if_pos short, returned]
    next long =>
      rw [if_neg long]
      split at returned
      next first second read read' =>
        split at returned
        next marked => rw [if_pos marked, walk_more enough _ returned]
        next other => rw [if_neg other, returned]
      next => simp at returned
  | png => exact walk_more enough _ returned
  | webp => exact returned
  | avif => exact walk_more enough _ returned

/-- No accepted array continues another one of its format. -/
theorem accepted_prefix {format : SafeFormat} (exact' : format ≠ .avif) {first second : Bytes}
    (accepted : Accepted format first) (accepted' : Accepted format second)
    (initial : first <+: second) : first = second := by
  obtain ⟨more, rfl⟩ := initial
  by_contra differs
  have some : more ≠ [] := by
    rintro rfl
    exact differs (List.append_nil first).symm
  obtain ⟨fuel, run⟩ := accepted
  obtain ⟨fuel', run'⟩ := accepted'
  have rejected := container_more (Nat.le_max_left fuel fuel') (container_longer exact' some run)
  have accepted := container_more (Nat.le_max_right fuel fuel') run'
  rw [accepted] at rejected
  simp at rejected

end Endings

section Tiling

variable {bytes : Bytes}

theorem byteAt_drop (start offset : Nat) :
    byteAt (bytes.drop start) offset = byteAt bytes (start + offset) := by
  simp [byteAt]

theorem byteAt_take {stop offset : Nat} (inside : offset < stop) :
    byteAt (bytes.take stop) offset = byteAt bytes offset := by
  simp [byteAt, inside]

theorem bigEndian_drop (start width offset : Nat) :
    bigEndian (bytes.drop start) width offset = bigEndian bytes width (start + offset) := by
  induction width with
  | zero => rfl
  | succ width ih => simp [bigEndian, ih, byteAt_drop, Nat.add_assoc]

theorem bigEndian_take (width : Nat) {stop offset : Nat} (inside : offset + width <= stop) :
    bigEndian (bytes.take stop) width offset = bigEndian bytes width offset := by
  induction width with
  | zero => rfl
  | succ width ih => simp [bigEndian, ih (by omega), byteAt_take (show offset + width < stop by omega)]

/-- The boxes of an array, each as long as its header declares. Only a last box may declare the
size zero. -/
inductive Tiled : Bytes -> Prop
  | none : Tiled []
  | last (box : Bytes) (zero : readUInt32BE box 0 = some 0) (header : 8 <= box.length) : Tiled box
  | box (box later : Bytes) (declared : BoxAt box 0 box.length) (tiled : Tiled later) :
    Tiled (box ++ later)

-- The bytes of a box, cut out of the array.
theorem boxAt_cut {offset size : Nat} (box : BoxAt bytes offset size)
    (inside : offset + size <= bytes.length) :
    BoxAt ((bytes.drop offset).take size) 0 ((bytes.drop offset).take size).length := by
  have length : ((bytes.drop offset).take size).length = size := by
    simp only [List.length_take, List.length_drop]
    omega
  rw [length]
  have reads : forall width at', at' + width <= size ->
      bigEndian ((bytes.drop offset).take size) width at' = bigEndian bytes width (offset + at') := by
    intro width at' fits
    rw [bigEndian_take width fits, bigEndian_drop]
  rcases box with ⟨read, large⟩ | ⟨read, read', large⟩
  next => exact .inl ⟨by rw [readUInt32BE, reads 4 0 (by omega)]; exact read, large⟩
  next =>
    refine .inr ⟨?_, ?_, large⟩
    next =>
      rw [readUInt32BE, reads 4 0 (by omega)]
      exact read
    next =>
      rw [readBigUInt64BE, reads 8 8 (by omega)]
      exact read'

theorem accepted_tiled (accepted : Accepted .avif bytes) : Tiled bytes := by
  obtain ⟨fuel, returned⟩ := accepted
  have tiled := returned_induction
    (motive := fun offset => offset <= bytes.length -> Tiled (bytes.drop offset)) ?stop ?next fuel 0
    returned (Nat.zero_le _)
  next => simpa using tiled
  case stop =>
    intro offset taken inside
    rcases isoTurn_stop bytes taken with rfl | ⟨header, zero⟩
    next =>
      rw [List.drop_length]
      exact .none
    next =>
      refine .last _ ?_ (by simp only [List.length_drop]; omega)
      rw [readUInt32BE, bigEndian_drop]
      exact zero
  case next =>
    intro offset later taken ih inside
    obtain ⟨size, rfl, fits, _, box⟩ := isoTurn_next bytes taken
    have cut : bytes.drop offset = (bytes.drop offset).take size ++ bytes.drop (offset + size) := by
      rw [<- List.drop_drop, List.take_append_drop]
    rw [cut]
    exact .box _ _ (boxAt_cut box fits) (ih fits)

end Tiling

/-- The walkers return on every array without a read outside of it. For JPEG, PNG and WebP no
accepted array is a proper prefix of another, and an accepted ISO-BMFF array consists of its boxes. -/
theorem container_walkers_exact :
    (forall bytes format, Total fun fuel => hasExactContainerBoundary bytes fuel format) /\
      (forall format, format = .jpeg \/ format = .png \/ format = .webp ->
        forall first second, Accepted format first -> Accepted format second ->
          first <+: second -> first = second) /\
      forall bytes, Accepted .avif bytes -> Tiled bytes := by
  refine ⟨container_total, ?_, fun bytes => accepted_tiled⟩
  intro format exact' first second accepted accepted' initial
  refine accepted_prefix ?_ accepted accepted' initial
  rcases exact' with rfl | rfl | rfl <;> decide

end VapeCommerce.Media.Containers
