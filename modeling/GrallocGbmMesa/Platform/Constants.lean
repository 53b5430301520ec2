/-!
# Constants of the platform headers

Error numbers, Android usage flags and pixel formats, GBM formats and flags.
A C `int` and a `uint32_t` are both a 32-bit word; each use of a word reads it
signed or unsigned.
-/

namespace GrallocGbmMesa.Platform

abbrev Word := BitVec 32

/-! ## Error numbers -/

def einval : Int := 22
def enomem : Int := 12

/-- `INT_MAX`. -/
def intMax : Int := 2147483647

/-! ## Android usage flags -/

def grallocUsageSwReadOften : Word := 0x00000003#32
def grallocUsageSwReadMask : Word := 0x0000000f#32
def grallocUsageSwWriteOften : Word := 0x00000030#32
def grallocUsageSwWriteMask : Word := 0x000000f0#32
def grallocUsageHwTexture : Word := 0x00000100#32
def grallocUsageHwRender : Word := 0x00000200#32
def grallocUsageHwComposer : Word := 0x00000800#32
def grallocUsageHwFb : Word := 0x00001000#32
def grallocUsageProtected : Word := 0x00004000#32
def grallocUsageCursor : Word := 0x00008000#32

/-! ## Android pixel formats -/

def halPixelFormatRgba8888 : Word := 0x1#32
def halPixelFormatRgbx8888 : Word := 0x2#32
def halPixelFormatRgb888 : Word := 0x3#32
def halPixelFormatRgb565 : Word := 0x4#32
def halPixelFormatBgra8888 : Word := 0x5#32
def halPixelFormatYCbCr422Sp : Word := 0x10#32
def halPixelFormatYCrCb420Sp : Word := 0x11#32
def halPixelFormatRgbaFp16 : Word := 0x16#32
def halPixelFormatRaw16 : Word := 0x20#32
def halPixelFormatBlob : Word := 0x21#32
def halPixelFormatImplementationDefined : Word := 0x22#32
def halPixelFormatYCbCr420888 : Word := 0x23#32
def halPixelFormatRgba1010102 : Word := 0x2b#32
def halPixelFormatYCbCrP010 : Word := 0x36#32
def halPixelFormatY8 : Word := 0x20203859#32
def halPixelFormatY16 : Word := 0x20363159#32
def halPixelFormatYv12 : Word := 0x32315659#32

/-! ## GBM formats -/

def gbmFourccCode (a b c d : Char) : Word :=
  BitVec.ofNat 32 a.toNat ||| BitVec.ofNat 32 b.toNat <<< 8 |||
    BitVec.ofNat 32 c.toNat <<< 16 ||| BitVec.ofNat 32 d.toNat <<< 24

def gbmFormatC8 : Word := gbmFourccCode 'C' '8' ' ' ' '
def gbmFormatR8 : Word := gbmFourccCode 'R' '8' ' ' ' '
def gbmFormatR16 : Word := gbmFourccCode 'R' '1' '6' ' '
def gbmFormatGr88 : Word := gbmFourccCode 'G' 'R' '8' '8'
def gbmFormatRg1616 : Word := gbmFourccCode 'R' 'G' '3' '2'
def gbmFormatRgb332 : Word := gbmFourccCode 'R' 'G' 'B' '8'
def gbmFormatBgr233 : Word := gbmFourccCode 'B' 'G' 'R' '8'
def gbmFormatXrgb4444 : Word := gbmFourccCode 'X' 'R' '1' '2'
def gbmFormatXbgr4444 : Word := gbmFourccCode 'X' 'B' '1' '2'
def gbmFormatRgbx4444 : Word := gbmFourccCode 'R' 'X' '1' '2'
def gbmFormatBgrx4444 : Word := gbmFourccCode 'B' 'X' '1' '2'
def gbmFormatArgb4444 : Word := gbmFourccCode 'A' 'R' '1' '2'
def gbmFormatAbgr4444 : Word := gbmFourccCode 'A' 'B' '1' '2'
def gbmFormatRgba4444 : Word := gbmFourccCode 'R' 'A' '1' '2'
def gbmFormatBgra4444 : Word := gbmFourccCode 'B' 'A' '1' '2'
def gbmFormatXrgb1555 : Word := gbmFourccCode 'X' 'R' '1' '5'
def gbmFormatXbgr1555 : Word := gbmFourccCode 'X' 'B' '1' '5'
def gbmFormatRgbx5551 : Word := gbmFourccCode 'R' 'X' '1' '5'
def gbmFormatBgrx5551 : Word := gbmFourccCode 'B' 'X' '1' '5'
def gbmFormatArgb1555 : Word := gbmFourccCode 'A' 'R' '1' '5'
def gbmFormatAbgr1555 : Word := gbmFourccCode 'A' 'B' '1' '5'
def gbmFormatRgba5551 : Word := gbmFourccCode 'R' 'A' '1' '5'
def gbmFormatBgra5551 : Word := gbmFourccCode 'B' 'A' '1' '5'
def gbmFormatRgb565 : Word := gbmFourccCode 'R' 'G' '1' '6'
def gbmFormatBgr565 : Word := gbmFourccCode 'B' 'G' '1' '6'
def gbmFormatRgb888 : Word := gbmFourccCode 'R' 'G' '2' '4'
def gbmFormatBgr888 : Word := gbmFourccCode 'B' 'G' '2' '4'
def gbmFormatXrgb8888 : Word := gbmFourccCode 'X' 'R' '2' '4'
def gbmFormatXbgr8888 : Word := gbmFourccCode 'X' 'B' '2' '4'
def gbmFormatRgbx8888 : Word := gbmFourccCode 'R' 'X' '2' '4'
def gbmFormatBgrx8888 : Word := gbmFourccCode 'B' 'X' '2' '4'
def gbmFormatArgb8888 : Word := gbmFourccCode 'A' 'R' '2' '4'
def gbmFormatAbgr8888 : Word := gbmFourccCode 'A' 'B' '2' '4'
def gbmFormatRgba8888 : Word := gbmFourccCode 'R' 'A' '2' '4'
def gbmFormatBgra8888 : Word := gbmFourccCode 'B' 'A' '2' '4'
def gbmFormatXrgb2101010 : Word := gbmFourccCode 'X' 'R' '3' '0'
def gbmFormatXbgr2101010 : Word := gbmFourccCode 'X' 'B' '3' '0'
def gbmFormatArgb2101010 : Word := gbmFourccCode 'A' 'R' '3' '0'
def gbmFormatAbgr2101010 : Word := gbmFourccCode 'A' 'B' '3' '0'
def gbmFormatXbgr16161616 : Word := gbmFourccCode 'X' 'B' '4' '8'
def gbmFormatAbgr16161616 : Word := gbmFourccCode 'A' 'B' '4' '8'
def gbmFormatXbgr16161616F : Word := gbmFourccCode 'X' 'B' '4' 'H'
def gbmFormatAbgr16161616F : Word := gbmFourccCode 'A' 'B' '4' 'H'
def gbmFormatYuyv : Word := gbmFourccCode 'Y' 'U' 'Y' 'V'
def gbmFormatYvyu : Word := gbmFourccCode 'Y' 'V' 'Y' 'U'
def gbmFormatUyvy : Word := gbmFourccCode 'U' 'Y' 'V' 'Y'
def gbmFormatVyuy : Word := gbmFourccCode 'V' 'Y' 'U' 'Y'
def gbmFormatNv12 : Word := gbmFourccCode 'N' 'V' '1' '2'
def gbmFormatNv21 : Word := gbmFourccCode 'N' 'V' '2' '1'
def gbmFormatYuv420 : Word := gbmFourccCode 'Y' 'U' '1' '2'
def gbmFormatYvu420 : Word := gbmFourccCode 'Y' 'V' '1' '2'
def gbmFormatYuv422 : Word := gbmFourccCode 'Y' 'U' '1' '6'
def gbmFormatYuv444 : Word := gbmFourccCode 'Y' 'U' '2' '4'
def gbmFormatGr1616 : Word := gbmFourccCode 'G' 'R' '3' '2'
def gbmFormatRgbx1010102 : Word := gbmFourccCode 'R' 'X' '3' '0'
def gbmFormatBgrx1010102 : Word := gbmFourccCode 'B' 'X' '3' '0'
def gbmFormatRgba1010102 : Word := gbmFourccCode 'R' 'A' '3' '0'
def gbmFormatBgra1010102 : Word := gbmFourccCode 'B' 'A' '3' '0'
def gbmFormatAyuv : Word := gbmFourccCode 'A' 'Y' 'U' 'V'
def gbmFormatNv16 : Word := gbmFourccCode 'N' 'V' '1' '6'
def gbmFormatNv61 : Word := gbmFourccCode 'N' 'V' '6' '1'
def gbmFormatYuv410 : Word := gbmFourccCode 'Y' 'U' 'V' '9'
def gbmFormatYvu410 : Word := gbmFourccCode 'Y' 'V' 'U' '9'
def gbmFormatYuv411 : Word := gbmFourccCode 'Y' 'U' '1' '1'
def gbmFormatYvu411 : Word := gbmFourccCode 'Y' 'V' '1' '1'
def gbmFormatYvu422 : Word := gbmFourccCode 'Y' 'V' '1' '6'
def gbmFormatYvu444 : Word := gbmFourccCode 'Y' 'V' '2' '4'

/-- The formats that `gbm.h` defines. -/
def gbmFormats : List Word :=
  [gbmFormatC8, gbmFormatR8, gbmFormatR16, gbmFormatGr88, gbmFormatRg1616, gbmFormatGr1616,
    gbmFormatRgb332, gbmFormatBgr233, gbmFormatXrgb4444, gbmFormatXbgr4444, gbmFormatRgbx4444,
    gbmFormatBgrx4444, gbmFormatArgb4444, gbmFormatAbgr4444, gbmFormatRgba4444,
    gbmFormatBgra4444, gbmFormatXrgb1555, gbmFormatXbgr1555, gbmFormatRgbx5551,
    gbmFormatBgrx5551, gbmFormatArgb1555, gbmFormatAbgr1555, gbmFormatRgba5551,
    gbmFormatBgra5551, gbmFormatRgb565, gbmFormatBgr565, gbmFormatRgb888, gbmFormatBgr888,
    gbmFormatXrgb8888, gbmFormatXbgr8888, gbmFormatRgbx8888, gbmFormatBgrx8888,
    gbmFormatArgb8888, gbmFormatAbgr8888, gbmFormatRgba8888, gbmFormatBgra8888,
    gbmFormatXrgb2101010, gbmFormatXbgr2101010, gbmFormatRgbx1010102, gbmFormatBgrx1010102,
    gbmFormatArgb2101010, gbmFormatAbgr2101010, gbmFormatRgba1010102, gbmFormatBgra1010102,
    gbmFormatXbgr16161616, gbmFormatAbgr16161616, gbmFormatXbgr16161616F, gbmFormatAbgr16161616F,
    gbmFormatYuyv, gbmFormatYvyu, gbmFormatUyvy, gbmFormatVyuy, gbmFormatAyuv, gbmFormatNv12,
    gbmFormatNv21, gbmFormatNv16, gbmFormatNv61, gbmFormatYuv410, gbmFormatYvu410,
    gbmFormatYuv411, gbmFormatYvu411, gbmFormatYuv420, gbmFormatYvu420, gbmFormatYuv422,
    gbmFormatYvu422, gbmFormatYuv444, gbmFormatYvu444]

/-! ## GBM usage and transfer flags -/

def gbmBoUseScanout : Word := 0x1#32
def gbmBoUseCursor : Word := 0x2#32
def gbmBoUseRendering : Word := 0x4#32
def gbmBoUseLinear : Word := 0x10#32
def gbmBoUseProtected : Word := 0x20#32

def gbmBoTransferRead : Word := 0x1#32
def gbmBoTransferWrite : Word := 0x2#32

end GrallocGbmMesa.Platform
