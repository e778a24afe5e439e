/-!
# The runtime unit

The unit that every emitted codec calls into. It is the same for every schema, and one copy of it is
written in each run.
-/

namespace Wiregen.Emit

/-- The lines of the runtime unit. -/
def runtimeLines : List String := [
  "// Protobuf3 wire-format primitives called by protocodec-generated codecs.",
  "//",
  "// This file is written verbatim next to the generated sources as",
  "// `protobuf_runtime.rs`. It has no dependencies beyond `core`/`alloc` types",
  "// from std and must stay usable through `include!`, so it carries no inner",
  "// attributes or inner doc comments.",
  "//",
  "// Every decoder takes the input buffer and a read position and returns the",
  "// decoded value together with the position just past it.",
  "",
  "use std::fmt;",
  "",
  "pub const WIRE_VARINT: u64 = 0;",
  "pub const WIRE_FIXED64: u64 = 1;",
  "pub const WIRE_LENGTH_DELIMITED: u64 = 2;",
  "pub const WIRE_FIXED32: u64 = 5;",
  "",
  "/// Errors raised while decoding wire bytes.",
  "#[derive(Debug, Clone, PartialEq, Eq)]",
  "pub enum DecodeError \x7b",
  "    /// A read would run past the end of the buffer.",
  "    BufferOverflow,",
  "    /// A varint ran longer than ten bytes.",
  "    InvalidVarint,",
  "    /// A key carried a wire type this runtime cannot skip (groups, 6, 7).",
  "    UnknownWireType(u64),",
  "    /// A string field did not hold UTF-8.",
  "    InvalidUtf8,",
  "    /// A map entry held a tag other than its key (1) or value (2).",
  "    UnexpectedMapEntryTag(u64),",
  "\x7d",
  "",
  "impl fmt::Display for DecodeError \x7b",
  "    fn fmt(&self, f: &mut fmt::Formatter<'_>) -> fmt::Result \x7b",
  "        match self \x7b",
  "            DecodeError::BufferOverflow => write!(f, \"protobuf: buffer overflow\"),",
  "            DecodeError::InvalidVarint => write!(f, \"protobuf: invalid varint\"),",
  "            DecodeError::UnknownWireType(wt) => write!(f, \"protobuf: unknown wire type \x7b\x7d\", wt),",
  "            DecodeError::InvalidUtf8 => write!(f, \"protobuf: invalid UTF-8 in string field\"),",
  "            DecodeError::UnexpectedMapEntryTag(tag) => \x7b",
  "                write!(f, \"protobuf: unexpected tag \x7b\x7d inside map entry\", tag)",
  "            \x7d",
  "        \x7d",
  "    \x7d",
  "\x7d",
  "",
  "impl std::error::Error for DecodeError \x7b\x7d",
  "",
  "// Keys",
  "",
  "#[inline]",
  "pub fn encode_key(buf: &mut Vec<u8>, key: u64) \x7b",
  "    encode_varint(buf, key);",
  "\x7d",
  "",
  "#[inline]",
  "pub fn decode_key(data: &[u8], pos: usize) -> Result<(u64, usize), DecodeError> \x7b",
  "    decode_varint(data, pos)",
  "\x7d",
  "",
  "// Varint",
  "",
  "#[inline]",
  "pub fn encode_varint(buf: &mut Vec<u8>, mut value: u64) \x7b",
  "    while value >= 0x80 \x7b",
  "        buf.push((value as u8) | 0x80);",
  "        value >>= 7;",
  "    \x7d",
  "    buf.push(value as u8);",
  "\x7d",
  "",
  "#[inline]",
  "pub fn decode_varint(data: &[u8], mut pos: usize) -> Result<(u64, usize), DecodeError> \x7b",
  "    let mut result: u64 = 0;",
  "    let mut shift: u32 = 0;",
  "    loop \x7b",
  "        if shift > 63 \x7b",
  "            return Err(DecodeError::InvalidVarint);",
  "        \x7d",
  "        let Some(&byte) = data.get(pos) else \x7b",
  "            return Err(DecodeError::BufferOverflow);",
  "        \x7d;",
  "        pos += 1;",
  "        result |= u64::from(byte & 0x7F) << shift;",
  "        if byte & 0x80 == 0 \x7b",
  "            return Ok((result, pos));",
  "        \x7d",
  "        shift += 7;",
  "    \x7d",
  "\x7d",
  "",
  "// Plain varint integers. Negative int32 values are sign extended to ten bytes.",
  "",
  "#[inline]",
  "pub fn encode_int32(buf: &mut Vec<u8>, value: i32) \x7b",
  "    encode_varint(buf, value as i64 as u64);",
  "\x7d",
  "",
  "#[inline]",
  "pub fn decode_int32(data: &[u8], pos: usize) -> Result<(i32, usize), DecodeError> \x7b",
  "    let (raw, pos) = decode_varint(data, pos)?;",
  "    Ok((raw as i32, pos))",
  "\x7d",
  "",
  "#[inline]",
  "pub fn encode_int64(buf: &mut Vec<u8>, value: i64) \x7b",
  "    encode_varint(buf, value as u64);",
  "\x7d",
  "",
  "#[inline]",
  "pub fn decode_int64(data: &[u8], pos: usize) -> Result<(i64, usize), DecodeError> \x7b",
  "    let (raw, pos) = decode_varint(data, pos)?;",
  "    Ok((raw as i64, pos))",
  "\x7d",
  "",
  "#[inline]",
  "pub fn encode_uint32(buf: &mut Vec<u8>, value: u32) \x7b",
  "    encode_varint(buf, u64::from(value));",
  "\x7d",
  "",
  "#[inline]",
  "pub fn decode_uint32(data: &[u8], pos: usize) -> Result<(u32, usize), DecodeError> \x7b",
  "    let (raw, pos) = decode_varint(data, pos)?;",
  "    Ok((raw as u32, pos))",
  "\x7d",
  "",
  "#[inline]",
  "pub fn encode_uint64(buf: &mut Vec<u8>, value: u64) \x7b",
  "    encode_varint(buf, value);",
  "\x7d",
  "",
  "#[inline]",
  "pub fn decode_uint64(data: &[u8], pos: usize) -> Result<(u64, usize), DecodeError> \x7b",
  "    decode_varint(data, pos)",
  "\x7d",
  "",
  "#[inline]",
  "pub fn encode_enum(buf: &mut Vec<u8>, value: i32) \x7b",
  "    encode_int32(buf, value);",
  "\x7d",
  "",
  "#[inline]",
  "pub fn decode_enum(data: &[u8], pos: usize) -> Result<(i32, usize), DecodeError> \x7b",
  "    decode_int32(data, pos)",
  "\x7d",
  "",
  "#[inline]",
  "pub fn encode_bool(buf: &mut Vec<u8>, value: bool) \x7b",
  "    buf.push(u8::from(value));",
  "\x7d",
  "",
  "#[inline]",
  "pub fn decode_bool(data: &[u8], pos: usize) -> Result<(bool, usize), DecodeError> \x7b",
  "    let (raw, pos) = decode_varint(data, pos)?;",
  "    Ok((raw != 0, pos))",
  "\x7d",
  "",
  "// Zigzag (sint32 / sint64)",
  "",
  "#[inline]",
  "pub fn encode_sint32(buf: &mut Vec<u8>, value: i32) \x7b",
  "    let zigzag = ((value << 1) ^ (value >> 31)) as u32;",
  "    encode_varint(buf, u64::from(zigzag));",
  "\x7d",
  "",
  "#[inline]",
  "pub fn decode_sint32(data: &[u8], pos: usize) -> Result<(i32, usize), DecodeError> \x7b",
  "    let (raw, pos) = decode_varint(data, pos)?;",
  "    let n = raw as u32;",
  "    Ok((((n >> 1) as i32) ^ -((n & 1) as i32), pos))",
  "\x7d",
  "",
  "#[inline]",
  "pub fn encode_sint64(buf: &mut Vec<u8>, value: i64) \x7b",
  "    let zigzag = ((value << 1) ^ (value >> 63)) as u64;",
  "    encode_varint(buf, zigzag);",
  "\x7d",
  "",
  "#[inline]",
  "pub fn decode_sint64(data: &[u8], pos: usize) -> Result<(i64, usize), DecodeError> \x7b",
  "    let (raw, pos) = decode_varint(data, pos)?;",
  "    Ok((((raw >> 1) as i64) ^ -((raw & 1) as i64), pos))",
  "\x7d",
  "",
  "// 64-bit fixed, little endian",
  "",
  "#[inline]",
  "pub fn encode_fixed64(buf: &mut Vec<u8>, value: u64) \x7b",
  "    buf.extend_from_slice(&value.to_le_bytes());",
  "\x7d",
  "",
  "#[inline]",
  "pub fn decode_fixed64(data: &[u8], pos: usize) -> Result<(u64, usize), DecodeError> \x7b",
  "    let (bytes, pos) = slice(data, pos, 8)?;",
  "    let mut raw = [0u8; 8];",
  "    raw.copy_from_slice(bytes);",
  "    Ok((u64::from_le_bytes(raw), pos))",
  "\x7d",
  "",
  "#[inline]",
  "pub fn encode_sfixed64(buf: &mut Vec<u8>, value: i64) \x7b",
  "    encode_fixed64(buf, value as u64);",
  "\x7d",
  "",
  "#[inline]",
  "pub fn decode_sfixed64(data: &[u8], pos: usize) -> Result<(i64, usize), DecodeError> \x7b",
  "    let (raw, pos) = decode_fixed64(data, pos)?;",
  "    Ok((raw as i64, pos))",
  "\x7d",
  "",
  "#[inline]",
  "pub fn encode_double(buf: &mut Vec<u8>, value: f64) \x7b",
  "    encode_fixed64(buf, value.to_bits());",
  "\x7d",
  "",
  "#[inline]",
  "pub fn decode_double(data: &[u8], pos: usize) -> Result<(f64, usize), DecodeError> \x7b",
  "    let (raw, pos) = decode_fixed64(data, pos)?;",
  "    Ok((f64::from_bits(raw), pos))",
  "\x7d",
  "",
  "// 32-bit fixed, little endian",
  "",
  "#[inline]",
  "pub fn encode_fixed32(buf: &mut Vec<u8>, value: u32) \x7b",
  "    buf.extend_from_slice(&value.to_le_bytes());",
  "\x7d",
  "",
  "#[inline]",
  "pub fn decode_fixed32(data: &[u8], pos: usize) -> Result<(u32, usize), DecodeError> \x7b",
  "    let (bytes, pos) = slice(data, pos, 4)?;",
  "    let mut raw = [0u8; 4];",
  "    raw.copy_from_slice(bytes);",
  "    Ok((u32::from_le_bytes(raw), pos))",
  "\x7d",
  "",
  "#[inline]",
  "pub fn encode_sfixed32(buf: &mut Vec<u8>, value: i32) \x7b",
  "    encode_fixed32(buf, value as u32);",
  "\x7d",
  "",
  "#[inline]",
  "pub fn decode_sfixed32(data: &[u8], pos: usize) -> Result<(i32, usize), DecodeError> \x7b",
  "    let (raw, pos) = decode_fixed32(data, pos)?;",
  "    Ok((raw as i32, pos))",
  "\x7d",
  "",
  "#[inline]",
  "pub fn encode_float(buf: &mut Vec<u8>, value: f32) \x7b",
  "    encode_fixed32(buf, value.to_bits());",
  "\x7d",
  "",
  "#[inline]",
  "pub fn decode_float(data: &[u8], pos: usize) -> Result<(f32, usize), DecodeError> \x7b",
  "    let (raw, pos) = decode_fixed32(data, pos)?;",
  "    Ok((f32::from_bits(raw), pos))",
  "\x7d",
  "",
  "// Length-delimited",
  "",
  "/// Borrow `len` bytes starting at `pos`.",
  "#[inline]",
  "pub fn slice(data: &[u8], pos: usize, len: usize) -> Result<(&[u8], usize), DecodeError> \x7b",
  "    let end = pos.checked_add(len).ok_or(DecodeError::BufferOverflow)?;",
  "    match data.get(pos..end) \x7b",
  "        Some(bytes) => Ok((bytes, end)),",
  "        None => Err(DecodeError::BufferOverflow),",
  "    \x7d",
  "\x7d",
  "",
  "/// Read a varint length prefix and borrow the bytes it covers.",
  "#[inline]",
  "pub fn decode_length_delimited(data: &[u8], pos: usize) -> Result<(&[u8], usize), DecodeError> \x7b",
  "    let (len, pos) = decode_varint(data, pos)?;",
  "    let len = usize::try_from(len).map_err(|_| DecodeError::BufferOverflow)?;",
  "    slice(data, pos, len)",
  "\x7d",
  "",
  "#[inline]",
  "pub fn encode_bytes(buf: &mut Vec<u8>, value: &[u8]) \x7b",
  "    encode_varint(buf, value.len() as u64);",
  "    buf.extend_from_slice(value);",
  "\x7d",
  "",
  "#[inline]",
  "pub fn decode_bytes(data: &[u8], pos: usize) -> Result<(Vec<u8>, usize), DecodeError> \x7b",
  "    let (bytes, pos) = decode_length_delimited(data, pos)?;",
  "    Ok((bytes.to_vec(), pos))",
  "\x7d",
  "",
  "#[inline]",
  "pub fn encode_string(buf: &mut Vec<u8>, value: &str) \x7b",
  "    encode_bytes(buf, value.as_bytes());",
  "\x7d",
  "",
  "#[inline]",
  "pub fn decode_string(data: &[u8], pos: usize) -> Result<(String, usize), DecodeError> \x7b",
  "    let (bytes, pos) = decode_length_delimited(data, pos)?;",
  "    match std::str::from_utf8(bytes) \x7b",
  "        Ok(s) => Ok((s.to_owned(), pos)),",
  "        Err(_) => Err(DecodeError::InvalidUtf8),",
  "    \x7d",
  "\x7d",
  "",
  "// Unknown fields",
  "",
  "/// Skip the value of an unrecognized field whose key carried `wire_type`.",
  "#[inline]",
  "pub fn skip_field(data: &[u8], pos: usize, wire_type: u64) -> Result<usize, DecodeError> \x7b",
  "    match wire_type \x7b",
  "        WIRE_VARINT => decode_varint(data, pos).map(|(_, pos)| pos),",
  "        WIRE_FIXED64 => slice(data, pos, 8).map(|(_, pos)| pos),",
  "        WIRE_LENGTH_DELIMITED => decode_length_delimited(data, pos).map(|(_, pos)| pos),",
  "        WIRE_FIXED32 => slice(data, pos, 4).map(|(_, pos)| pos),",
  "        other => Err(DecodeError::UnknownWireType(other)),",
  "    \x7d",
  "\x7d"]

/-- The text of the runtime unit. -/
def runtimeText : String := String.join (runtimeLines.map (· ++ "\n"))

end Wiregen.Emit
