/-!
# Descriptor tables of the virtual controller

The bytes of `include/vds/ds5_usb.h`, shared by the kernel device model and the
USB/IP server.
-/

namespace VirtualDualSense.Usb.Descriptors

inductive Profile
  | ds5
  | dse
  deriving DecidableEq

def usbManufacturerString : String := "Sony Interactive Entertainment"
def ds5UsbProductString : String := "DualSense Wireless Controller"
def dseUsbProductString : String := "DualSense Edge Wireless Controller"

def usbAudioControlInterface : Nat := 0
def usbAudioOutInterface : Nat := 1
def usbAudioInInterface : Nat := 2
def usbHidInterface : Nat := 3

def usbAudioOutEndpoint : Nat := 0x01
def usbAudioInEndpoint : Nat := 0x82
def usbHidInEndpoint : Nat := 0x84
def usbHidOutEndpoint : Nat := 0x03

def usbSpeakerFeatureUnit : Nat := 2
def usbMicFeatureUnit : Nat := 5

def ds5UsbDeviceDescriptor : List UInt8 :=
  [0x12, 0x01, 0x00, 0x02, 0x00, 0x00, 0x00, 0x40, 0x4c, 0x05, 0xe6, 0x0c,
   0x00, 0x01, 0x01, 0x02, 0x00, 0x01]

def dseUsbDeviceDescriptor : List UInt8 :=
  [0x12, 0x01, 0x00, 0x02, 0x00, 0x00, 0x00, 0x40, 0x4c, 0x05, 0xf2, 0x0d,
   0x00, 0x01, 0x01, 0x02, 0x00, 0x01]

def ds5UsbConfigurationDescriptor : List UInt8 :=
  [0x09, 0x02, 0xe3, 0x00, 0x04, 0x01, 0x00, 0xc0, 0xfa, 0x09, 0x04, 0x00,
   0x00, 0x00, 0x01, 0x01, 0x00, 0x00, 0x0a, 0x24, 0x01, 0x00, 0x01, 0x49,
   0x00, 0x02, 0x01, 0x02, 0x0c, 0x24, 0x02, 0x01, 0x01, 0x01, 0x06, 0x04,
   0x33, 0x00, 0x00, 0x00, 0x0c, 0x24, 0x06, 0x02, 0x01, 0x01, 0x03, 0x00,
   0x00, 0x00, 0x00, 0x00, 0x09, 0x24, 0x03, 0x03, 0x01, 0x03, 0x04, 0x02,
   0x00, 0x0c, 0x24, 0x02, 0x04, 0x02, 0x04, 0x03, 0x02, 0x03, 0x00, 0x00,
   0x00, 0x09, 0x24, 0x06, 0x05, 0x04, 0x01, 0x03, 0x00, 0x00, 0x09, 0x24,
   0x03, 0x06, 0x01, 0x01, 0x01, 0x05, 0x00, 0x09, 0x04, 0x01, 0x00, 0x00,
   0x01, 0x02, 0x00, 0x00, 0x09, 0x04, 0x01, 0x01, 0x01, 0x01, 0x02, 0x00,
   0x00, 0x07, 0x24, 0x01, 0x01, 0x01, 0x01, 0x00, 0x0b, 0x24, 0x02, 0x01,
   0x04, 0x02, 0x10, 0x01, 0x80, 0xbb, 0x00, 0x09, 0x05, 0x01, 0x09, 0x88,
   0x01, 0x04, 0x00, 0x00, 0x07, 0x25, 0x01, 0x00, 0x00, 0x00, 0x00, 0x09,
   0x04, 0x02, 0x00, 0x00, 0x01, 0x02, 0x00, 0x00, 0x09, 0x04, 0x02, 0x01,
   0x01, 0x01, 0x02, 0x00, 0x00, 0x07, 0x24, 0x01, 0x06, 0x01, 0x01, 0x00,
   0x0b, 0x24, 0x02, 0x01, 0x02, 0x02, 0x10, 0x01, 0x80, 0xbb, 0x00, 0x09,
   0x05, 0x82, 0x05, 0xc4, 0x00, 0x04, 0x00, 0x00, 0x07, 0x25, 0x01, 0x00,
   0x00, 0x00, 0x00, 0x09, 0x04, 0x03, 0x00, 0x02, 0x03, 0x00, 0x00, 0x00,
   0x09, 0x21, 0x11, 0x01, 0x00, 0x01, 0x22, 0x21, 0x01, 0x07, 0x05, 0x84,
   0x03, 0x40, 0x00, 0x06, 0x07, 0x05, 0x03, 0x03, 0x40, 0x00, 0x06]

def dseUsbConfigurationDescriptor : List UInt8 :=
  [0x09, 0x02, 0xe3, 0x00, 0x04, 0x01, 0x00, 0xc0, 0xfa, 0x09, 0x04, 0x00,
   0x00, 0x00, 0x01, 0x01, 0x00, 0x00, 0x0a, 0x24, 0x01, 0x00, 0x01, 0x49,
   0x00, 0x02, 0x01, 0x02, 0x0c, 0x24, 0x02, 0x01, 0x01, 0x01, 0x06, 0x04,
   0x33, 0x00, 0x00, 0x00, 0x0c, 0x24, 0x06, 0x02, 0x01, 0x01, 0x03, 0x00,
   0x00, 0x00, 0x00, 0x00, 0x09, 0x24, 0x03, 0x03, 0x01, 0x03, 0x04, 0x02,
   0x00, 0x0c, 0x24, 0x02, 0x04, 0x02, 0x04, 0x03, 0x02, 0x03, 0x00, 0x00,
   0x00, 0x09, 0x24, 0x06, 0x05, 0x04, 0x01, 0x03, 0x00, 0x00, 0x09, 0x24,
   0x03, 0x06, 0x01, 0x01, 0x01, 0x05, 0x00, 0x09, 0x04, 0x01, 0x00, 0x00,
   0x01, 0x02, 0x00, 0x00, 0x09, 0x04, 0x01, 0x01, 0x01, 0x01, 0x02, 0x00,
   0x00, 0x07, 0x24, 0x01, 0x01, 0x01, 0x01, 0x00, 0x0b, 0x24, 0x02, 0x01,
   0x04, 0x02, 0x10, 0x01, 0x80, 0xbb, 0x00, 0x09, 0x05, 0x01, 0x09, 0x88,
   0x01, 0x04, 0x00, 0x00, 0x07, 0x25, 0x01, 0x00, 0x00, 0x00, 0x00, 0x09,
   0x04, 0x02, 0x00, 0x00, 0x01, 0x02, 0x00, 0x00, 0x09, 0x04, 0x02, 0x01,
   0x01, 0x01, 0x02, 0x00, 0x00, 0x07, 0x24, 0x01, 0x06, 0x01, 0x01, 0x00,
   0x0b, 0x24, 0x02, 0x01, 0x02, 0x02, 0x10, 0x01, 0x80, 0xbb, 0x00, 0x09,
   0x05, 0x82, 0x05, 0xc4, 0x00, 0x04, 0x00, 0x00, 0x07, 0x25, 0x01, 0x00,
   0x00, 0x00, 0x00, 0x09, 0x04, 0x03, 0x00, 0x02, 0x03, 0x00, 0x00, 0x00,
   0x09, 0x21, 0x11, 0x01, 0x00, 0x01, 0x22, 0x95, 0x01, 0x07, 0x05, 0x84,
   0x03, 0x40, 0x00, 0x04, 0x07, 0x05, 0x03, 0x03, 0x40, 0x00, 0x06]

def ds5UsbHidDescriptor : List UInt8 :=
  [0x09, 0x21, 0x11, 0x01, 0x00, 0x01, 0x22, 0x21, 0x01]

def dseUsbHidDescriptor : List UInt8 :=
  [0x09, 0x21, 0x11, 0x01, 0x00, 0x01, 0x22, 0x95, 0x01]

def ds5UsbHidReportDescriptor : List UInt8 :=
  [0x05, 0x01, 0x09, 0x05, 0xa1, 0x01, 0x85, 0x01, 0x09, 0x30, 0x09, 0x31,
   0x09, 0x32, 0x09, 0x35, 0x09, 0x33, 0x09, 0x34, 0x15, 0x00, 0x26, 0xff,
   0x00, 0x75, 0x08, 0x95, 0x06, 0x81, 0x02, 0x06, 0x00, 0xff, 0x09, 0x20,
   0x95, 0x01, 0x81, 0x02, 0x05, 0x01, 0x09, 0x39, 0x15, 0x00, 0x25, 0x07,
   0x35, 0x00, 0x46, 0x3b, 0x01, 0x65, 0x14, 0x75, 0x04, 0x95, 0x01, 0x81,
   0x42, 0x65, 0x00, 0x05, 0x09, 0x19, 0x01, 0x29, 0x0f, 0x15, 0x00, 0x25,
   0x01, 0x75, 0x01, 0x95, 0x0f, 0x81, 0x02, 0x06, 0x00, 0xff, 0x09, 0x21,
   0x95, 0x0d, 0x81, 0x02, 0x06, 0x00, 0xff, 0x09, 0x22, 0x15, 0x00, 0x26,
   0xff, 0x00, 0x75, 0x08, 0x95, 0x34, 0x81, 0x02, 0x85, 0x02, 0x09, 0x23,
   0x95, 0x2f, 0x91, 0x02, 0x85, 0x05, 0x09, 0x33, 0x95, 0x28, 0xb1, 0x02,
   0x85, 0x08, 0x09, 0x34, 0x95, 0x2f, 0xb1, 0x02, 0x85, 0x09, 0x09, 0x24,
   0x95, 0x13, 0xb1, 0x02, 0x85, 0x0a, 0x09, 0x25, 0x95, 0x1a, 0xb1, 0x02,
   0x85, 0x0b, 0x09, 0x41, 0x95, 0x29, 0xb1, 0x02, 0x85, 0x0c, 0x09, 0x42,
   0x95, 0x29, 0xb1, 0x02, 0x85, 0x20, 0x09, 0x26, 0x95, 0x3f, 0xb1, 0x02,
   0x85, 0x21, 0x09, 0x27, 0x95, 0x04, 0xb1, 0x02, 0x85, 0x22, 0x09, 0x40,
   0x95, 0x3f, 0xb1, 0x02, 0x85, 0x80, 0x09, 0x28, 0x95, 0x3f, 0xb1, 0x02,
   0x85, 0x81, 0x09, 0x29, 0x95, 0x3f, 0xb1, 0x02, 0x85, 0x82, 0x09, 0x2a,
   0x95, 0x09, 0xb1, 0x02, 0x85, 0x83, 0x09, 0x2b, 0x95, 0x3f, 0xb1, 0x02,
   0x85, 0x84, 0x09, 0x2c, 0x95, 0x3f, 0xb1, 0x02, 0x85, 0x85, 0x09, 0x2d,
   0x95, 0x02, 0xb1, 0x02, 0x85, 0xa0, 0x09, 0x2e, 0x95, 0x01, 0xb1, 0x02,
   0x85, 0xe0, 0x09, 0x2f, 0x95, 0x3f, 0xb1, 0x02, 0x85, 0xf0, 0x09, 0x30,
   0x95, 0x3f, 0xb1, 0x02, 0x85, 0xf1, 0x09, 0x31, 0x95, 0x3f, 0xb1, 0x02,
   0x85, 0xf2, 0x09, 0x32, 0x95, 0x0f, 0xb1, 0x02, 0x85, 0xf4, 0x09, 0x35,
   0x95, 0x3f, 0xb1, 0x02, 0x85, 0xf5, 0x09, 0x36, 0x95, 0x03, 0xb1, 0x02,
   0xc0]

def dseUsbHidReportDescriptor : List UInt8 :=
  [0x05, 0x01, 0x09, 0x05, 0xa1, 0x01, 0x85, 0x01, 0x09, 0x30, 0x09, 0x31,
   0x09, 0x32, 0x09, 0x35, 0x09, 0x33, 0x09, 0x34, 0x15, 0x00, 0x26, 0xff,
   0x00, 0x75, 0x08, 0x95, 0x06, 0x81, 0x02, 0x06, 0x00, 0xff, 0x09, 0x20,
   0x95, 0x01, 0x81, 0x02, 0x05, 0x01, 0x09, 0x39, 0x15, 0x00, 0x25, 0x07,
   0x35, 0x00, 0x46, 0x3b, 0x01, 0x65, 0x14, 0x75, 0x04, 0x95, 0x01, 0x81,
   0x42, 0x65, 0x00, 0x05, 0x09, 0x19, 0x01, 0x29, 0x0f, 0x15, 0x00, 0x25,
   0x01, 0x75, 0x01, 0x95, 0x0f, 0x81, 0x02, 0x06, 0x00, 0xff, 0x09, 0x21,
   0x95, 0x0d, 0x81, 0x02, 0x06, 0x00, 0xff, 0x09, 0x22, 0x15, 0x00, 0x26,
   0xff, 0x00, 0x75, 0x08, 0x95, 0x34, 0x81, 0x02, 0x85, 0x02, 0x09, 0x23,
   0x95, 0x3f, 0x91, 0x02, 0x85, 0x05, 0x09, 0x33, 0x95, 0x28, 0xb1, 0x02,
   0x85, 0x08, 0x09, 0x34, 0x95, 0x2f, 0xb1, 0x02, 0x85, 0x09, 0x09, 0x24,
   0x95, 0x13, 0xb1, 0x02, 0x85, 0x0a, 0x09, 0x25, 0x95, 0x1a, 0xb1, 0x02,
   0x85, 0x0b, 0x09, 0x41, 0x95, 0x29, 0xb1, 0x02, 0x85, 0x0c, 0x09, 0x42,
   0x95, 0x29, 0xb1, 0x02, 0x85, 0x20, 0x09, 0x26, 0x95, 0x3f, 0xb1, 0x02,
   0x85, 0x21, 0x09, 0x27, 0x95, 0x04, 0xb1, 0x02, 0x85, 0x22, 0x09, 0x40,
   0x95, 0x3f, 0xb1, 0x02, 0x85, 0x80, 0x09, 0x28, 0x95, 0x3f, 0xb1, 0x02,
   0x85, 0x81, 0x09, 0x29, 0x95, 0x3f, 0xb1, 0x02, 0x85, 0x82, 0x09, 0x2a,
   0x95, 0x09, 0xb1, 0x02, 0x85, 0x83, 0x09, 0x2b, 0x95, 0x3f, 0xb1, 0x02,
   0x85, 0x84, 0x09, 0x2c, 0x95, 0x3f, 0xb1, 0x02, 0x85, 0x85, 0x09, 0x2d,
   0x95, 0x02, 0xb1, 0x02, 0x85, 0xa0, 0x09, 0x2e, 0x95, 0x01, 0xb1, 0x02,
   0x85, 0xe0, 0x09, 0x2f, 0x95, 0x3f, 0xb1, 0x02, 0x85, 0xf0, 0x09, 0x30,
   0x95, 0x3f, 0xb1, 0x02, 0x85, 0xf1, 0x09, 0x31, 0x95, 0x3f, 0xb1, 0x02,
   0x85, 0xf2, 0x09, 0x32, 0x95, 0x34, 0xb1, 0x02, 0x85, 0xf4, 0x09, 0x35,
   0x95, 0x3f, 0xb1, 0x02, 0x85, 0xf5, 0x09, 0x36, 0x95, 0x03, 0xb1, 0x02,
   0x85, 0x60, 0x09, 0x41, 0x95, 0x3f, 0xb1, 0x02, 0x85, 0x61, 0x09, 0x42,
   0xb1, 0x02, 0x85, 0x62, 0x09, 0x43, 0xb1, 0x02, 0x85, 0x63, 0x09, 0x44,
   0xb1, 0x02, 0x85, 0x64, 0x09, 0x45, 0xb1, 0x02, 0x85, 0x65, 0x09, 0x46,
   0xb1, 0x02, 0x85, 0x68, 0x09, 0x47, 0xb1, 0x02, 0x85, 0x70, 0x09, 0x48,
   0xb1, 0x02, 0x85, 0x71, 0x09, 0x49, 0xb1, 0x02, 0x85, 0x72, 0x09, 0x4a,
   0xb1, 0x02, 0x85, 0x73, 0x09, 0x4b, 0xb1, 0x02, 0x85, 0x74, 0x09, 0x4c,
   0xb1, 0x02, 0x85, 0x75, 0x09, 0x4d, 0xb1, 0x02, 0x85, 0x76, 0x09, 0x4e,
   0xb1, 0x02, 0x85, 0x77, 0x09, 0x4f, 0xb1, 0x02, 0x85, 0x78, 0x09, 0x50,
   0xb1, 0x02, 0x85, 0x79, 0x09, 0x51, 0xb1, 0x02, 0x85, 0x7a, 0x09, 0x52,
   0xb1, 0x02, 0x85, 0x7b, 0x09, 0x53, 0xb1, 0x02, 0xc0]

def usbLanguageDescriptor : List UInt8 :=
  [0x04, 0x03, 0x09, 0x04]

/-- The tables of one profile. -/
structure ProfileDescriptors where
  device : List UInt8
  config : List UInt8
  hid : List UInt8
  hidReport : List UInt8

def descriptorsForProfile : Profile → ProfileDescriptors
  | .dse =>
      ⟨dseUsbDeviceDescriptor, dseUsbConfigurationDescriptor, dseUsbHidDescriptor,
        dseUsbHidReportDescriptor⟩
  | .ds5 =>
      ⟨ds5UsbDeviceDescriptor, ds5UsbConfigurationDescriptor, ds5UsbHidDescriptor,
        ds5UsbHidReportDescriptor⟩

section Lengths

set_option maxRecDepth 8000

@[simp] theorem length_ds5UsbDeviceDescriptor : ds5UsbDeviceDescriptor.length = 18 := rfl

@[simp] theorem length_dseUsbDeviceDescriptor : dseUsbDeviceDescriptor.length = 18 := rfl

@[simp] theorem length_ds5UsbConfigurationDescriptor :
    ds5UsbConfigurationDescriptor.length = 227 := rfl

@[simp] theorem length_dseUsbConfigurationDescriptor :
    dseUsbConfigurationDescriptor.length = 227 := rfl

@[simp] theorem length_ds5UsbHidDescriptor : ds5UsbHidDescriptor.length = 9 := rfl

@[simp] theorem length_dseUsbHidDescriptor : dseUsbHidDescriptor.length = 9 := rfl

@[simp] theorem length_ds5UsbHidReportDescriptor :
    ds5UsbHidReportDescriptor.length = 289 := rfl

@[simp] theorem length_dseUsbHidReportDescriptor :
    dseUsbHidReportDescriptor.length = 405 := rfl

end Lengths

end VirtualDualSense.Usb.Descriptors
