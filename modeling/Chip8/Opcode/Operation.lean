/-
  The operations of the machine and the names that table rows use for them.
-/

namespace Chip8

/-- What an instruction does. -/
inductive Operation where
  | clearScreen
  | ret
  | jump
  | call
  | skipIfEqual
  | skipIfNotEqual
  | loadByte
  | addByte
  | copy
  | and
  | xor
  | add
  | subtract
  | shiftRight
  | loadIndex
  | random
  | draw
  | skipIfKey
  | skipIfNotKey
  | readDelay
  | waitKey
  | setDelay
  | setSound
  | addIndex
  | pointAtGlyph
  | storeDecimal
  | storeRegisters
  | loadRegisters
deriving DecidableEq, Repr

namespace Operation

/-- The name of an operation in a table row. -/
def name : Operation → String
  | clearScreen => "op_cls"
  | ret => "op_ret"
  | jump => "op_jp"
  | call => "op_call"
  | skipIfEqual => "op_se_vx_byte"
  | skipIfNotEqual => "op_sne_vx_byte"
  | loadByte => "op_ld_vx_byte"
  | addByte => "op_add_vx_byte"
  | copy => "op_ld_vx_vy"
  | and => "op_and_vx_vy"
  | xor => "op_xor_vx_vy"
  | add => "op_add_vx_vy"
  | subtract => "op_sub_vx_vy"
  | shiftRight => "op_shr_vx"
  | loadIndex => "op_ld_i"
  | random => "op_rnd"
  | draw => "op_drw"
  | skipIfKey => "op_skp"
  | skipIfNotKey => "op_sknp"
  | readDelay => "op_ld_vx_dt"
  | waitKey => "op_ld_vx_k"
  | setDelay => "op_ld_dt_vx"
  | setSound => "op_ld_st_vx"
  | addIndex => "op_add_i_vx"
  | pointAtGlyph => "op_ld_f_vx"
  | storeDecimal => "op_ld_b_vx"
  | storeRegisters => "op_ld_mem_vx"
  | loadRegisters => "op_ld_vx_mem"

def all : List Operation :=
  [clearScreen, ret, jump, call, skipIfEqual, skipIfNotEqual, loadByte, addByte, copy, and, xor,
   add, subtract, shiftRight, loadIndex, random, draw, skipIfKey, skipIfNotKey, readDelay,
   waitKey, setDelay, setSound, addIndex, pointAtGlyph, storeDecimal, storeRegisters,
   loadRegisters]

theorem mem_all (op : Operation) : op ∈ all := by cases op <;> decide

/-- The operation of a name. -/
def ofName? (name : String) : Option Operation := all.find? (·.name == name)

theorem ofName?_name (op : Operation) : ofName? op.name = some op := by cases op <;> decide

end Operation

end Chip8
